import Descent.Fold.Path
import Descent.Proofs.Json.Members

/-!
# The children of a value

A value is its children and little more. What holds of a value as soon as it holds of its children
holds of all values (`Value.children_induction`), so arrays and objects need not be told apart, and
the lists inside them need no induction of their own.

In a value whose keys ascend a step leads to at most one child, which is the one that stands beside
it among the children (`mem_children_iff`), and the value is rebuilt from its children as it was
(`rebuild_children`).
-/

namespace Descent.Value

variable {v child : Value} {step : Segment} {items : List Value} {members : List (String × Value)}

/-- What every value has whose children all have it, every value has. -/
theorem children_induction {motive : Value → Prop}
    (h : ∀ v : Value, (∀ entry ∈ v.children, motive entry.2) → motive v) (v : Value) :
    motive v := by
  -- the recursor goes through the lists of items and members
  refine @Value.rec motive (fun items => ∀ item ∈ items, motive item)
    (fun members => ∀ member ∈ members, motive member.2) (fun member => motive member.2)
    ?null ?bool ?int ?float ?str ?arr ?obj ?noItem ?item ?noMember ?member ?pair v
  case arr =>
    intro items hitems
    refine h _ fun entry hentry => ?_
    obtain ⟨⟨item, i⟩, hitem, rfl⟩ := List.mem_map.1 hentry
    exact hitems item (List.fst_mem_of_mem_zipIdx hitem)
  case obj =>
    intro members hmembers
    refine h _ fun entry hentry => ?_
    obtain ⟨member, hmember, rfl⟩ := List.mem_map.1 hentry
    exact hmembers member hmember
  case item => exact fun _ _ hitem hitems => List.forall_mem_cons.2 ⟨hitem, hitems⟩
  case member => exact fun _ _ hmember hmembers => List.forall_mem_cons.2 ⟨hmember, hmembers⟩
  case pair => exact fun _ _ hvalue => hvalue
  case noItem => nofun
  case noMember => nofun
  all_goals intros; exact h _ nofun

/-! ## Steps -/

theorem mem_children_arr :
    (step, child) ∈ (arr items).children ↔ ∃ i, step = .index i ∧ items[i]? = some child := by
  rw [children, List.mem_map]
  constructor
  · rintro ⟨⟨item, i⟩, hitem, heq⟩
    obtain ⟨rfl, rfl⟩ := Prod.mk.inj heq
    exact ⟨i, rfl, List.mem_zipIdx_iff_getElem?.1 hitem⟩
  · rintro ⟨i, rfl, hitem⟩
    exact ⟨(child, i), List.mem_zipIdx_iff_getElem?.2 hitem, rfl⟩

theorem mem_children_obj :
    (step, child) ∈ (obj members).children ↔ ∃ k, step = .key k ∧ (k, child) ∈ members := by
  rw [children, List.mem_map]
  constructor
  · rintro ⟨⟨k, value⟩, hmember, heq⟩
    obtain ⟨rfl, rfl⟩ := Prod.mk.inj heq
    exact ⟨k, rfl, hmember⟩
  · rintro ⟨k, rfl, hmember⟩
    exact ⟨(k, child), hmember, rfl⟩

/-- In a value whose keys ascend a step leads to the child that stands beside it. -/
theorem mem_children_iff (hv : v.Ordered) :
    (step, child) ∈ v.children ↔ v.child? step = some child := by
  cases v with
  | arr items =>
    rw [mem_children_arr]
    cases step with
    | index i => simp [child?]
    | key k => simp [child?]
  | obj members =>
    rw [Ordered] at hv
    rw [mem_children_obj]
    cases step with
    | index i => simp [child?]
    | key k =>
      have hkey : (obj members).child? (.key k) = (obj members).get? k := rfl
      rw [hkey, get?_obj_eq_some_iff hv.1]
      simp
  | _ => simp [children, child?]

theorem orderedItems_iff : OrderedItems items ↔ ∀ item ∈ items, item.Ordered := by
  induction items with
  | nil => exact ⟨nofun, fun _ => trivial⟩
  | cons item rest ih => rw [OrderedItems, ih, List.forall_mem_cons]

theorem orderedMembers_iff : OrderedMembers members ↔ ∀ member ∈ members, member.2.Ordered := by
  induction members with
  | nil => exact ⟨nofun, fun _ => trivial⟩
  | cons member rest ih => rw [OrderedMembers, ih, List.forall_mem_cons]

/-- The keys ascend in the children of a value in which they do. -/
theorem Ordered.of_mem_children (hv : v.Ordered) (h : (step, child) ∈ v.children) :
    child.Ordered := by
  cases v with
  | arr items =>
    rw [Ordered, orderedItems_iff] at hv
    obtain ⟨i, -, hitem⟩ := mem_children_arr.1 h
    exact hv child (List.mem_of_getElem? hitem)
  | obj members =>
    rw [Ordered, orderedMembers_iff] at hv
    obtain ⟨k, -, hmember⟩ := mem_children_obj.1 h
    exact hv.2 _ hmember
  | _ => nomatch h

/-! ## Paths -/

theorem at?_cons (v : Value) (step : Segment) (path : Path) :
    v.at? (step :: path) = (v.child? step).bind fun child => child.at? path := rfl

theorem at?_append (v : Value) (path rest : Path) :
    v.at? (path ++ rest) = (v.at? path).bind fun node => node.at? rest := by
  induction path generalizing v with
  | nil => rfl
  | cons step path ih =>
    rw [List.cons_append, at?_cons, at?_cons, Option.bind_assoc]
    exact congrArg _ (funext fun child => ih child)

theorem Ordered.of_at? {node : Value} {path : Path} (hv : v.Ordered)
    (h : v.at? path = some node) : node.Ordered := by
  induction path generalizing v with
  | nil => exact Option.some.inj h ▸ hv
  | cons step path ih =>
    obtain ⟨child, hchild, h⟩ := Option.bind_eq_some_iff.1 h
    exact ih (hv.of_mem_children ((mem_children_iff hv).2 hchild)) h

/-! ## Other children under the same steps -/

/-- The value with other children under the same steps. -/
def mapChildren (f : Segment → Value → Value) : Value → Value
  | arr items => arr (items.zipIdx.map fun (item, i) => f (.index i) item)
  | obj members => obj (members.map fun (k, value) => (k, f (.key k) value))
  | leaf => leaf

variable {f : Segment → Value → Value}

theorem child?_mapChildren : (v.mapChildren f).child? step = (v.child? step).map (f step) := by
  cases v with
  | arr items =>
    cases step with
    | index i =>
      simp only [child?, mapChildren, List.getElem?_map, List.getElem?_zipIdx, Option.map_map,
        Function.comp_def, Nat.zero_add]
    | key k => rfl
  | obj members =>
    cases step with
    | index i => rfl
    | key k =>
      simp only [child?, mapChildren, List.find?_map, Option.map_map, Function.comp_def]
      refine Option.map_congr fun member hmember => ?_
      have hkey := List.find?_some hmember
      rw [beq_iff_eq] at hkey
      rw [hkey]
  | _ => rfl

theorem mapChildren_congr {f' : Segment → Value → Value}
    (h : ∀ entry ∈ v.children, f entry.1 entry.2 = f' entry.1 entry.2) :
    v.mapChildren f = v.mapChildren f' := by
  cases v with
  | arr items =>
    have hitems : ∀ item ∈ items.zipIdx, f (.index item.2) item.1 = f' (.index item.2) item.1 :=
      fun item hitem => h _ (List.mem_map_of_mem hitem)
    exact congrArg arr (List.map_congr_left hitems)
  | obj members =>
    have hmembers : ∀ member ∈ members,
        (member.1, f (.key member.1) member.2) = (member.1, f' (.key member.1) member.2) :=
      fun member hmember => congrArg _ (h _ (List.mem_map_of_mem hmember))
    exact congrArg obj (List.map_congr_left hmembers)
  | _ => rfl

theorem mapChildren_self : (v.mapChildren fun _ child => child) = v := by
  cases v with
  | arr items => simp only [mapChildren, List.zipIdx_map_fst]
  | obj members => simp only [mapChildren, List.map_id']
  | _ => rfl

/-- An object whose keys ascend is rebuilt under the keys that it had. -/
theorem rebuild_obj_map_children (h : KeysAscend members) :
    (obj members).rebuild ((obj members).children.map fun (step, child) => (step, f step child))
      = (obj members).mapChildren f := by
  have hkeys : KeysAscend (members.map fun (k, value) => (k, f (.key k) value)) :=
    List.pairwise_map.2 h
  have hfilter : (members.map fun (k, value) => (Segment.key k, f (.key k) value)).filterMap
        (fun (step, child) => step.key?.map fun k => (k, child))
      = members.map fun (k, value) => (k, f (.key k) value) := by
    rw [List.filterMap_map, ← List.filterMap_eq_map]
    rfl
  simp only [rebuild, mapChildren, children, List.map_map, Function.comp_def]
  rw [ofMembers, hfilter, sortMembers_of_keysAscend hkeys]

/-- A value whose keys ascend is rebuilt with the steps that it had. -/
theorem rebuild_map_children (hv : v.Ordered) :
    v.rebuild (v.children.map fun (step, child) => (step, f step child)) = v.mapChildren f := by
  cases v with
  | arr items =>
    simp only [rebuild, mapChildren, children, List.map_map, Function.comp_def]
  | obj members =>
    rw [Ordered] at hv
    exact rebuild_obj_map_children hv.1
  | _ => rfl

theorem rebuild_children_arr (items : List Value) :
    (arr items).rebuild (arr items).children = arr items := by
  simp only [rebuild, children, List.map_map, Function.comp_def, List.zipIdx_map_fst]

theorem rebuild_children_obj (h : KeysAscend members) :
    (obj members).rebuild (obj members).children = obj members := by
  calc (obj members).rebuild (obj members).children
    _ = (obj members).rebuild ((obj members).children.map fun (step, child) => (step, child)) := by
      rw [List.map_id']
    _ = (obj members).mapChildren fun _ child => child :=
      rebuild_obj_map_children (f := fun _ child => child) h
    _ = obj members := mapChildren_self

/-- A value whose keys ascend is rebuilt from its children as it was. -/
theorem rebuild_children (hv : v.Ordered) : v.rebuild v.children = v := by
  cases v with
  | arr items => exact rebuild_children_arr items
  | obj members =>
    rw [Ordered] at hv
    exact rebuild_children_obj hv.1
  | _ => rfl

end Descent.Value
