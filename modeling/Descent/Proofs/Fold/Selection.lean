import Mathlib.Data.List.Basic
import Descent.Proofs.Fold.Postorder

/-!
# Some of the children of a value

`Value.chooseChildren` leaves out some children of a value and puts other values in the place of the
rest. Members stay under their keys. Items move up to close the gaps, so the index of an item is the
number of items left before it: `Value.moved` says which step leads to a child after that. The steps
that lead somewhere are the moved steps of the children that are left
(`child?_chooseChildren`, `exists_of_child?_chooseChildren`), in the order in which they were
(`Segment.Before.moved`).

Rebuilding a value from some of its children, each under the step that it had, comes to the same
(`rebuild_filterMap_children`).
-/

namespace Descent

namespace Value

variable {v child kept : Value} {step later : Segment} {f : Segment → Value → Option Value}
  {items : List Value} {members : List (String × Value)}

/-- The value with other children in the place of some, without the others. -/
def chooseChildren (f : Segment → Value → Option Value) : Value → Value
  | arr items => arr ((arr items).children.filterMap fun (step, child) => f step child)
  | obj members => obj (members.filterMap fun (k, value) => (f (.key k) value).map (k, ·))
  | leaf => leaf

/-- The step to a child once some children are left out. -/
def moved (keeps : Segment → Value → Bool) (v : Value) : Segment → Segment
  | .index i => .index ((v.children.take i).countP fun (step, child) => keeps step child)
  | .key k => .key k

theorem keysAscend_filterMap (hmembers : KeysAscend members) :
    KeysAscend (members.filterMap fun (k, value) => (f (.key k) value).map (k, ·)) := by
  refine List.pairwise_filterMap.2 (hmembers.imp ?_)
  intro member other hlt entry hentry entry' hentry'
  obtain ⟨value, -, rfl⟩ := Option.map_eq_some_iff.1 hentry
  obtain ⟨value', -, rfl⟩ := Option.map_eq_some_iff.1 hentry'
  exact hlt

/-- A value whose keys ascend is rebuilt from some of its children as if they had been chosen. -/
theorem rebuild_filterMap_children (hv : v.Ordered) :
    v.rebuild (v.children.filterMap fun (step, child) => (f step child).map (step, ·))
      = v.chooseChildren f := by
  cases v with
  | arr items =>
    simp only [rebuild, chooseChildren, List.map_filterMap, Option.map_map, Function.comp_def,
      Option.map_id']
  | obj members =>
    rw [Ordered] at hv
    have hfilter : ((obj members).children.filterMap
          fun (step, child) => (f step child).map (step, ·)).filterMap
            (fun (step, child) => step.key?.map fun k => (k, child))
        = members.filterMap fun (k, value) => (f (.key k) value).map (k, ·) := by
      rw [List.filterMap_filterMap, children, List.filterMap_map]
      refine List.filterMap_congr fun member _ => ?_
      simp only [Function.comp_apply]
      cases f (.key member.1) member.2 <;> rfl
    -- the keys that are left ascend, so there is nothing to sort
    rw [rebuild, ofMembers, hfilter, sortMembers_of_keysAscend (keysAscend_filterMap hv.1),
      chooseChildren]
  | _ => rfl

theorem chooseChildren_eq_self (h : ∀ entry ∈ v.children, f entry.1 entry.2 = some entry.2) :
    v.chooseChildren f = v := by
  cases v with
  | arr items =>
    have hitems : ((arr items).children.filterMap fun (step, child) => f step child)
        = (arr items).children.map fun (_, child) => child :=
      List.filterMap_eq_map_iff_forall_eq_some.2 h
    rw [chooseChildren, hitems, children, List.map_map]
    exact congrArg arr (List.zipIdx_map_fst 0 items)
  | obj members =>
    have hmembers : (members.filterMap fun (k, value) => (f (.key k) value).map (k, ·))
        = members.map id := by
      refine List.filterMap_eq_map_iff_forall_eq_some.2 fun member hmember => ?_
      exact congrArg (Option.map _) (h _ (List.mem_map_of_mem hmember))
    rw [chooseChildren, hmembers, List.map_id]
  | _ => rfl

theorem mem_children_chooseChildren (h : (step, kept) ∈ (v.chooseChildren f).children) :
    ∃ step child, (step, child) ∈ v.children ∧ f step child = some kept := by
  cases v with
  | arr items =>
    obtain ⟨i, -, hitem⟩ := mem_children_arr.1 h
    obtain ⟨⟨step, child⟩, hchild, hkept⟩ := List.mem_filterMap.1 (List.mem_of_getElem? hitem)
    exact ⟨step, child, hchild, hkept⟩
  | obj members =>
    obtain ⟨k, -, hmember⟩ := mem_children_obj.1 h
    obtain ⟨⟨k', child⟩, hchild, hkept⟩ := List.mem_filterMap.1 hmember
    obtain ⟨value, hvalue, heq⟩ := Option.map_eq_some_iff.1 hkept
    obtain ⟨rfl, rfl⟩ := Prod.mk.inj heq
    exact ⟨.key k', child, mem_children_obj.2 ⟨k', rfl, hchild⟩, hvalue⟩
  | _ => nomatch h

/-- The keys still ascend if they do in what is put in. -/
theorem Ordered.chooseChildren (hv : v.Ordered)
    (h : ∀ entry ∈ v.children, ∀ kept, f entry.1 entry.2 = some kept → kept.Ordered) :
    (v.chooseChildren f).Ordered := by
  cases v with
  | arr items =>
    rw [Value.chooseChildren, Ordered, orderedItems_iff]
    intro item hitem
    obtain ⟨entry, hentry, hkept⟩ := List.mem_filterMap.1 hitem
    exact h entry hentry item hkept
  | obj members =>
    rw [Ordered] at hv
    rw [Value.chooseChildren, Ordered, orderedMembers_iff]
    refine ⟨keysAscend_filterMap hv.1, fun member hmember => ?_⟩
    obtain ⟨entry, hentry, hkept⟩ := List.mem_filterMap.1 hmember
    obtain ⟨value, hvalue, rfl⟩ := Option.map_eq_some_iff.1 hkept
    exact h _ (List.mem_map_of_mem hentry) value hvalue
  | _ => exact hv

/-! ## Steps to the children that are left -/

section

variable {α β : Type} {g : α → Option β} {l : List α} {a : α} {b : β} {i j : Nat}

/-- An item that is left stands behind as many as are left of those before it. -/
theorem getElem?_filterMap_countP (ha : l[i]? = some a) (hb : g a = some b) :
    (l.filterMap g)[(l.take i).countP fun a => (g a).isSome]? = some b := by
  induction l generalizing i with
  | nil => nomatch ha
  | cons x l ih =>
    cases i with
    | zero =>
      obtain rfl : x = a := Option.some.inj ha
      rw [List.filterMap_cons_some hb]
      rfl
    | succ i =>
      have hrest := ih (i := i) ha
      rw [List.take_succ_cons, List.countP_cons]
      cases hx : g x with
      | none => rwa [List.filterMap_cons_none hx]
      | some y => rwa [List.filterMap_cons_some hx]

theorem exists_of_getElem?_filterMap (h : (l.filterMap g)[j]? = some b) :
    ∃ i a, l[i]? = some a ∧ g a = some b ∧ (l.take i).countP (fun a => (g a).isSome) = j := by
  induction l generalizing j with
  | nil => nomatch h
  | cons x l ih =>
    cases hx : g x with
    | none =>
      rw [List.filterMap_cons_none hx] at h
      obtain ⟨i, a, ha, hb, hcount⟩ := ih h
      refine ⟨i + 1, a, ha, hb, ?_⟩
      rw [List.take_succ_cons, List.countP_cons_of_neg (by rw [hx]; nofun), hcount]
    | some y =>
      rw [List.filterMap_cons_some hx] at h
      cases j with
      | zero => exact ⟨0, x, rfl, hx.trans h, rfl⟩
      | succ j =>
        obtain ⟨i, a, ha, hb, hcount⟩ := ih h
        refine ⟨i + 1, a, ha, hb, ?_⟩
        rw [List.take_succ_cons, List.countP_cons_of_pos (by rw [hx]; rfl), hcount]

/-- What is kept counts towards all that stands behind it. -/
theorem countP_take_lt {keeps : α → Bool} (ha : l[i]? = some a) (hkeeps : keeps a = true)
    (hij : i < j) : (l.take i).countP keeps < (l.take j).countP keeps := by
  have htake : l.take (i + 1) = l.take i ++ [a] := by
    rw [List.take_add_one, ha]
    rfl
  calc (l.take i).countP keeps
    _ < (l.take (i + 1)).countP keeps := by
      rw [htake, List.countP_append, List.countP_singleton, if_pos hkeeps]
      exact Nat.lt_succ_self _
    _ ≤ (l.take j).countP keeps := (List.take_prefix_take_left hij).sublist.countP_le

end

theorem getElem?_children_arr {i : Nat} :
    (arr items).children[i]? = some (step, child) ↔ step = .index i ∧ items[i]? = some child := by
  rw [children, List.getElem?_map, List.getElem?_zipIdx, Option.map_map, Option.map_eq_some_iff,
    Nat.zero_add]
  simp only [Function.comp_apply, Prod.mk.injEq]
  constructor
  · rintro ⟨_, hitem, rfl, rfl⟩
    exact ⟨rfl, hitem⟩
  · rintro ⟨rfl, hitem⟩
    exact ⟨child, hitem, rfl, rfl⟩

/-- The moved step to a child leads to what is put in its place. -/
theorem child?_chooseChildren (hv : v.Ordered) (hchild : v.child? step = some child)
    (hkept : f step child = some kept) :
    (v.chooseChildren f).child? (moved (fun step child => (f step child).isSome) v step)
      = some kept := by
  cases v with
  | arr items =>
    cases step with
    | index i =>
      have hentry : (arr items).children[i]? = some (.index i, child) :=
        getElem?_children_arr.2 ⟨rfl, hchild⟩
      exact getElem?_filterMap_countP (g := fun (step, child) => f step child) hentry hkept
    | key k => cases hchild
  | obj members =>
    rw [Ordered] at hv
    cases step with
    | index i => cases hchild
    | key k =>
      have hmember : (k, child) ∈ members := (get?_obj_eq_some_iff hv.1).1 hchild
      refine (get?_obj_eq_some_iff (keysAscend_filterMap hv.1)).2 (List.mem_filterMap.2 ?_)
      exact ⟨(k, child), hmember, Option.map_eq_some_iff.2 ⟨kept, hkept, rfl⟩⟩
  | _ => cases hchild

/-- Nothing but the moved steps leads to a child. -/
theorem exists_of_child?_chooseChildren (hv : v.Ordered)
    (h : (v.chooseChildren f).child? later = some kept) :
    ∃ step child, v.child? step = some child ∧ f step child = some kept ∧
      moved (fun step child => (f step child).isSome) v step = later := by
  cases v with
  | arr items =>
    cases later with
    | index j =>
      obtain ⟨i, ⟨step, child⟩, hentry, hkept, hcount⟩ := exists_of_getElem?_filterMap h
      obtain ⟨rfl, hitem⟩ := getElem?_children_arr.1 hentry
      exact ⟨.index i, child, hitem, hkept, congrArg Segment.index hcount⟩
    | key k => cases h
  | obj members =>
    rw [Ordered] at hv
    cases later with
    | index j => cases h
    | key k =>
      have hmember := (get?_obj_eq_some_iff (keysAscend_filterMap hv.1)).1 h
      obtain ⟨⟨k', child⟩, hchild, hkept⟩ := List.mem_filterMap.1 hmember
      obtain ⟨value, hvalue, heq⟩ := Option.map_eq_some_iff.1 hkept
      obtain ⟨rfl, rfl⟩ := Prod.mk.inj heq
      exact ⟨.key k', child, (get?_obj_eq_some_iff hv.1).2 hchild, hvalue, rfl⟩
  | _ => cases h

end Value

/-- The children that are left keep their order. -/
theorem Segment.Before.moved {keeps : Segment → Value → Bool} {v child : Value}
    {step later : Segment} (h : step.Before later) (hchild : v.child? step = some child)
    (hkeeps : keeps step child = true) : (v.moved keeps step).Before (v.moved keeps later) := by
  cases step with
  | index i =>
    cases later with
    | index j =>
      cases v with
      | arr items =>
        exact Value.countP_take_lt (Value.getElem?_children_arr.2 ⟨rfl, hchild⟩) hkeeps h
      | _ => nomatch hchild
    | key k => exact h.elim
  | key k => cases later <;> exact h

end Descent
