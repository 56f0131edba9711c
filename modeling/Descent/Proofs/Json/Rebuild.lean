import Descent.Proofs.Json.Children
import Descent.Proofs.Text.Bytes
import Mathlib.Data.List.Sort

/-!
# Rebuilding a value around any children

A value may be rebuilt around children that were never its own: steps of the wrong kind, keys that
occur more than once, any order. What comes out is in order again. An array takes all children and
counts them anew. An object holds, under each key, the last of the children with that key
(`mem_children_rebuild_obj`), so the order of children with distinct keys is forgotten
(`rebuild_obj_of_perm`), and its own children are read in the order of the bytes of their keys
(`pairwise_children_rebuild_obj`). Rebuilding once more changes nothing
(`rebuild_children_rebuild`), and values in which the keys of objects ascend never make one in which
they do not (`Ordered.rebuild`).
-/

namespace Descent.Value

variable {v child : Value} {step : Segment} {k : String} {items : List Value}
  {members members' : List (String × Value)} {cs cs' : List (Segment × Value)}

/-! ## Arrays -/

/-- The children of an array rebuilt around children are these, counted from zero. -/
theorem children_rebuild_arr :
    ((arr items).rebuild cs).children = cs.zipIdx.map fun (entry, i) => (.index i, entry.2) := by
  rw [rebuild, children, List.zipIdx_map, List.map_map]
  rfl

/-! ## Objects -/

/-- Objects whose keys ascend are equal if they have the same children. -/
theorem obj_ext (h : KeysAscend members) (h' : KeysAscend members')
    (hchildren : ∀ step child,
      (step, child) ∈ (obj members).children ↔ (step, child) ∈ (obj members').children) :
    obj members = obj members' := by
  have : Std.Antisymm fun a b : String × Value => a.1 < b.1 :=
    ⟨fun _ _ hlt hgt => absurd hgt (String.lt_asymm hlt)⟩
  have : Std.Irrefl fun a b : String × Value => a.1 < b.1 := ⟨fun m => String.lt_irrefl m.1⟩
  refine congrArg obj (List.Pairwise.eq_of_mem_iff h h' fun (k, child) => ?_)
  simpa only [mem_children_obj, Segment.key.injEq, exists_eq_left'] using hchildren (.key k) child

theorem find?_reverse_eq_some_iff {entry : Segment × Value} :
    cs.reverse.find? (·.1 == step) = some entry ↔
      entry.1 = step ∧ ∃ pre post, cs = pre ++ entry :: post ∧ ∀ e ∈ post, e.1 ≠ step := by
  rw [List.find?_eq_some_iff_append, beq_iff_eq]
  refine and_congr_right fun _ => ⟨?_, ?_⟩
  · rintro ⟨post, pre, hcs, hpost⟩
    refine ⟨pre.reverse, post.reverse, ?_, fun e he => ?_⟩
    · rw [← List.reverse_reverse cs, hcs]
      simp
    · simpa using hpost e (List.mem_reverse.1 he)
  · rintro ⟨pre, post, rfl, hpost⟩
    refine ⟨post.reverse, pre.reverse, by simp, fun e he => ?_⟩
    simpa using hpost e (List.mem_reverse.1 he)

/-- Under each key an object has the last of the children that it was rebuilt around. -/
theorem get?_rebuild_obj :
    ((obj members).rebuild cs).get? k = (cs.reverse.find? (·.1 == .key k)).map (·.2) := by
  have hkey (entry : Segment × Value) :
      ((entry.1.key?.map fun k => (k, entry.2)).any fun m => m.1 == k) = (entry.1 == .key k) := by
    cases hstep : entry.1 <;> simp [Segment.key?]
  rw [rebuild, get?_ofMembers, ← List.filterMap_reverse, List.find?_filterMap]
  simp only [hkey]
  cases hfind : cs.reverse.find? (·.1 == .key k) with
  | none => rfl
  | some entry =>
    obtain ⟨hstep, -⟩ := find?_reverse_eq_some_iff.1 hfind
    rw [Option.bind_some, hstep]
    rfl

theorem mem_children_rebuild_obj_iff_get? :
    (step, child) ∈ ((obj members).rebuild cs).children ↔
      ∃ k, step = .key k ∧ ((obj members).rebuild cs).get? k = some child := by
  rw [rebuild, ofMembers, mem_children_obj]
  exact exists_congr fun k => and_congr_right fun _ =>
    (get?_obj_eq_some_iff (keysAscend_sortMembers _)).symm

/-- The children of an object are the last under each key that it was rebuilt around. -/
theorem mem_children_rebuild_obj :
    (step, child) ∈ ((obj members).rebuild cs).children ↔
      ∃ k, step = .key k ∧
        ∃ pre post, cs = pre ++ (.key k, child) :: post ∧ ∀ entry ∈ post, entry.1 ≠ .key k := by
  simp only [mem_children_rebuild_obj_iff_get?, get?_rebuild_obj, Option.map_eq_some_iff,
    find?_reverse_eq_some_iff]
  refine exists_congr fun k => and_congr_right fun _ => ⟨?_, ?_⟩
  · rintro ⟨⟨_, _⟩, ⟨rfl, hlast⟩, rfl⟩
    exact hlast
  · exact fun hlast => ⟨(.key k, child), ⟨rfl, hlast⟩, rfl⟩

/-- An object has the keys of the children that it was rebuilt around. -/
theorem mem_steps_rebuild_obj :
    step ∈ ((obj members).rebuild cs).children.map (·.1) ↔
      (∃ k, step = .key k) ∧ step ∈ cs.map (·.1) := by
  have hfind {k : String} :
      (∃ v, ((obj members).rebuild cs).get? k = some v) ↔ .key k ∈ cs.map (·.1) := by
    rw [get?_rebuild_obj, ← Option.isSome_iff_exists, Option.isSome_map, List.find?_isSome]
    simp [List.mem_map]
  constructor
  · intro hmem
    obtain ⟨⟨_, child⟩, hchild, rfl⟩ := List.mem_map.1 hmem
    obtain ⟨k, hk, hget⟩ := mem_children_rebuild_obj_iff_get?.1 hchild
    exact ⟨⟨k, hk⟩, hk ▸ hfind.1 ⟨child, hget⟩⟩
  · rintro ⟨⟨k, rfl⟩, hmem⟩
    obtain ⟨child, hget⟩ := hfind.2 hmem
    exact List.mem_map_of_mem (mem_children_rebuild_obj_iff_get?.2 ⟨k, rfl, hget⟩)

/-- An object has all children with distinct keys that it was rebuilt around. -/
theorem mem_children_rebuild_obj_of_nodup (h : (cs.filterMap (·.1.key?)).Nodup) :
    (step, child) ∈ ((obj members).rebuild cs).children ↔
      (∃ k, step = .key k) ∧ (step, child) ∈ cs := by
  rw [mem_children_rebuild_obj]
  constructor
  · rintro ⟨k, rfl, pre, post, rfl, -⟩
    exact ⟨⟨k, rfl⟩, List.mem_append_right _ List.mem_cons_self⟩
  · rintro ⟨⟨k, rfl⟩, hmem⟩
    obtain ⟨pre, post, rfl⟩ := List.append_of_mem hmem
    refine ⟨k, rfl, pre, post, rfl, fun entry hentry hstep => ?_⟩
    -- no later child has the key, since the keys are distinct
    have hkeys : (k :: post.filterMap (·.1.key?)).Nodup := by
      rw [List.filterMap_append] at h
      exact (List.nodup_append.1 h).2.1
    exact (List.nodup_cons.1 hkeys).1
      (List.mem_filterMap.2 ⟨entry, hentry, congrArg Segment.key? hstep⟩)

/-- Children with distinct keys make the same object in any order. -/
theorem rebuild_obj_of_perm (h : (cs.filterMap (·.1.key?)).Nodup) (hperm : cs.Perm cs') :
    (obj members).rebuild cs' = (obj members).rebuild cs := by
  have h' : (cs'.filterMap (·.1.key?)).Nodup := (hperm.filterMap _).nodup_iff.1 h
  refine obj_ext (keysAscend_sortMembers _) (keysAscend_sortMembers _) fun step child => ?_
  calc (step, child) ∈ ((obj members).rebuild cs').children
    _ ↔ (∃ k, step = .key k) ∧ (step, child) ∈ cs' := mem_children_rebuild_obj_of_nodup h'
    _ ↔ (∃ k, step = .key k) ∧ (step, child) ∈ cs := by rw [hperm.mem_iff]
    _ ↔ (step, child) ∈ ((obj members).rebuild cs).children :=
      (mem_children_rebuild_obj_of_nodup h).symm

/-- The children of an object stand in the order of the bytes of their keys. -/
theorem pairwise_children_rebuild_obj :
    ((obj members).rebuild cs).children.Pairwise fun a b => ∃ k l, a.1 = .key k ∧ b.1 = .key l ∧
      k.toUTF8.data.toList < l.toUTF8.data.toList :=
  List.pairwise_map.2 <| (keysAscend_sortMembers _).imp fun hlt =>
    ⟨_, _, rfl, rfl, (Bytes.lt_iff_bytes_lt _ _).1 hlt⟩

/-! ## All values -/

/-- The keys ascend in what is rebuilt around values in which they do. -/
theorem Ordered.rebuild (hv : v.Ordered) (hcs : ∀ entry ∈ cs, entry.2.Ordered) :
    (v.rebuild cs).Ordered := by
  cases v with
  | arr items =>
    rw [Value.rebuild, Ordered, orderedItems_iff]
    intro item hitem
    obtain ⟨entry, hentry, rfl⟩ := List.mem_map.1 hitem
    exact hcs entry hentry
  | obj members =>
    rw [Value.rebuild, ofMembers, Ordered, orderedMembers_iff]
    refine ⟨keysAscend_sortMembers _, fun member hmember => ?_⟩
    have hchild : (.key member.1, member.2) ∈ ((obj members).rebuild cs).children :=
      mem_children_obj.2 ⟨member.1, rfl, hmember⟩
    obtain ⟨k, hk, pre, post, rfl, -⟩ := mem_children_rebuild_obj.1 hchild
    exact hcs (.key k, member.2) (List.mem_append_right _ List.mem_cons_self)
  | _ => exact hv

/-- What is rebuilt around any children is rebuilt around its own as it was. -/
theorem rebuild_children_rebuild (v : Value) (cs : List (Segment × Value)) :
    (v.rebuild cs).rebuild (v.rebuild cs).children = v.rebuild cs := by
  cases v with
  | arr items => exact rebuild_children_arr _
  | obj members => exact rebuild_children_obj (keysAscend_sortMembers _)
  | _ => rfl

/-- A value is rebuilt from any children as one of its kind in normal form. An array takes their
values in order. An object takes the last value under each key, in the order of the bytes of the
keys, and if the keys are distinct the order in which they came does not matter. Keys that ascend
still ascend afterwards, and then, or as soon as it has been rebuilt once, a value is rebuilt from
its own children as it was. -/
theorem rebuild_normalises (n : Value) (cs : List (Segment × Value)) :
    (∀ items, n = arr items →
      n.rebuild cs = arr (cs.map (·.2)) ∧
      (n.rebuild cs).children = cs.zipIdx.map fun (entry, i) => (.index i, entry.2)) ∧
    (∀ members, n = obj members →
      (∃ members', n.rebuild cs = obj members') ∧
      (∀ step, step ∈ (n.rebuild cs).children.map (·.1) ↔
        (∃ k, step = .key k) ∧ step ∈ cs.map (·.1)) ∧
      (∀ k child, (.key k, child) ∈ (n.rebuild cs).children ↔
        ∃ pre post, cs = pre ++ (.key k, child) :: post ∧ ∀ entry ∈ post, entry.1 ≠ .key k) ∧
      ((n.rebuild cs).children.Pairwise fun a b => ∃ k l, a.1 = .key k ∧ b.1 = .key l ∧
        k.toUTF8.data.toList < l.toUTF8.data.toList) ∧
      ((cs.filterMap (·.1.key?)).Nodup → ∀ cs', cs.Perm cs' → n.rebuild cs' = n.rebuild cs)) ∧
    ((∀ items, n ≠ arr items) → (∀ members, n ≠ obj members) → n.rebuild cs = n) ∧
    (n.Ordered → (∀ entry ∈ cs, entry.2.Ordered) → (n.rebuild cs).Ordered) ∧
    (n.Ordered → n.rebuild n.children = n) ∧
    (n.rebuild cs).rebuild (n.rebuild cs).children = n.rebuild cs := by
  refine ⟨?_, ?_, fun harr hobj => ?_, Ordered.rebuild, rebuild_children,
    rebuild_children_rebuild n cs⟩
  · rintro items rfl
    exact ⟨rfl, children_rebuild_arr⟩
  · rintro members rfl
    refine ⟨⟨_, rfl⟩, fun _ => mem_steps_rebuild_obj, fun k child => ?_,
      pairwise_children_rebuild_obj, fun h _ => rebuild_obj_of_perm h⟩
    simp only [mem_children_rebuild_obj, Segment.key.injEq, exists_eq_left']
  · cases n with
    | arr items => exact absurd rfl (harr items)
    | obj members => exact absurd rfl (hobj members)
    | _ => rfl

theorem rebuild_normalises_repeated_key :
    (Segment.key "é", int 3) ∈
        ((obj []).rebuild [(.key "é", int 1), (.index 0, null), (.key "z", int 2),
          (.key "é", int 3)]).children ∧
      (obj []).rebuild [(.key "z", int 2), (.key "é", int 1)]
        = (obj []).rebuild [(.key "é", int 1), (.key "z", int 2)] ∧
      null.rebuild [(.index 0, int 1)] = null ∧
      (obj [("z", null), ("é", null)]).rebuild (obj [("z", null), ("é", null)]).children
        = obj [("z", null), ("é", null)] := by
  refine ⟨?_, ?_, ?_, ?_⟩
  · obtain ⟨-, hlast, -⟩ := ((rebuild_normalises (obj []) _).2.1 [] rfl).2
    exact (hlast "é" (int 3)).2 ⟨[(.key "é", int 1), (.index 0, null), (.key "z", int 2)], [], rfl,
      nofun⟩
  · exact ((rebuild_normalises (obj []) [(.key "é", int 1), (.key "z", int 2)]).2.1 [] rfl).2.2.2.2
      (by decide) _ (List.Perm.swap _ _ _)
  · exact (rebuild_normalises null _).2.2.1 nofun nofun
  · have hkeys : KeysAscend [("z", null), ("é", null)] :=
      List.pairwise_pair.2 (by decide)
    exact (rebuild_normalises (obj [("z", null), ("é", null)]) []).2.2.2.2.1
      ⟨hkeys, trivial, trivial, trivial⟩

end Descent.Value
