import Descent.Json.Value

/-!
# The members of an object

An object keeps its members by key. Putting a member in place (`Value.insertMember`) keeps the keys
in ascending order, and afterwards finds that member under its key and every other where it was. So
an object made of a list of members holds, under each key, the last of the list.
-/

namespace Descent.Value

variable {key k : String} {v : Value} {members : List (String × Value)}

theorem find?_cons_member (m : String × Value) (rest : List (String × Value)) :
    (m :: rest).find? (·.1 == k) = if m.1 = k then some m else rest.find? (·.1 == k) := by
  rw [List.find?_cons]
  by_cases hk : m.1 = k
  · rw [beq_iff_eq.2 hk, if_pos hk]
  · rw [beq_eq_false_iff_ne.2 hk, if_neg hk]

theorem insertMember_cons (member : String × Value) (rest : List (String × Value)) :
    insertMember key v (member :: rest) =
      if key < member.1 then (key, v) :: member :: rest
      else if key = member.1 then (key, v) :: rest
      else member :: insertMember key v rest := rfl

theorem find?_insertMember :
    (insertMember key v members).find? (·.1 == k)
      = if key = k then some (key, v) else members.find? (·.1 == k) := by
  induction members with
  | nil => exact find?_cons_member _ _
  | cons member rest ih =>
    rw [insertMember_cons]
    split
    · exact find?_cons_member _ _
    · split
      · -- the new member takes the place of one with the same key
        next heq =>
        rw [find?_cons_member, find?_cons_member, ← heq]
        by_cases hk : key = k <;> simp only [hk, if_true, if_false]
      · next hne =>
        rw [find?_cons_member, find?_cons_member, ih]
        by_cases hk : key = k
        · -- the member in front has another key, so it does not hide the new one
          rw [if_neg (hk ▸ Ne.symm hne), if_pos hk, if_pos hk]
        · rw [if_neg hk, if_neg hk]

theorem find?_foldl_insertMember (sorted : List (String × Value)) :
    (members.foldl (fun acc m => insertMember m.1 m.2 acc) sorted).find? (·.1 == k)
      = (members.reverse.find? (·.1 == k)).or (sorted.find? (·.1 == k)) := by
  induction members generalizing sorted with
  | nil => rfl
  | cons m members ih =>
    rw [List.foldl_cons, ih, find?_insertMember, List.reverse_cons, List.find?_append,
      Option.or_assoc, find?_cons_member]
    by_cases hk : m.1 = k
    · rw [if_pos hk, if_pos hk, Option.some_or]
    · rw [if_neg hk, if_neg hk, List.find?_nil, Option.none_or]

/-- Under each key an object has the last of the members that it was made of. -/
theorem get?_ofMembers (members : List (String × Value)) (key : String) :
    (ofMembers members).get? key = (members.reverse.find? (·.1 == key)).map (·.2) := by
  simp only [ofMembers, sortMembers, get?]
  rw [find?_foldl_insertMember, List.find?_nil, Option.or_none]

theorem mem_of_mem_insertMember {m : String × Value} (h : m ∈ insertMember key v members) :
    m = (key, v) ∨ m ∈ members := by
  induction members with
  | nil => exact Or.inl (List.mem_singleton.1 h)
  | cons member rest ih =>
    rw [insertMember_cons] at h
    split at h
    · exact List.mem_cons.1 h
    · split at h
      · exact (List.mem_cons.1 h).imp_right (List.mem_cons_of_mem _)
      · rcases List.mem_cons.1 h with rfl | h
        · exact Or.inr List.mem_cons_self
        · exact (ih h).imp_right (List.mem_cons_of_mem _)

theorem keysAscend_insertMember (h : KeysAscend members) :
    KeysAscend (insertMember key v members) := by
  induction members with
  | nil => exact List.pairwise_singleton _ _
  | cons member rest ih =>
    obtain ⟨hfirst, hrest⟩ := List.pairwise_cons.1 h
    rw [insertMember_cons]
    split
    · next hlt =>
      refine List.pairwise_cons.2 ⟨List.forall_mem_cons.2 ⟨hlt, fun m hm => ?_⟩, h⟩
      exact String.lt_trans hlt (hfirst m hm)
    · next hge =>
      split
      · next heq => exact List.pairwise_cons.2 ⟨fun m hm => heq ▸ hfirst m hm, hrest⟩
      · next hne =>
        refine List.pairwise_cons.2 ⟨fun m hm => ?_, ih hrest⟩
        rcases mem_of_mem_insertMember hm with rfl | hm
        · exact Std.lt_of_le_of_ne (String.not_lt.1 hge) (Ne.symm hne)
        · exact hfirst m hm

/-- The keys of an object made of any members ascend. -/
theorem keysAscend_sortMembers (members : List (String × Value)) :
    KeysAscend (sortMembers members) := by
  suffices h : ∀ sorted, KeysAscend sorted →
      KeysAscend (members.foldl (fun acc m => insertMember m.1 m.2 acc) sorted) from
    h [] List.Pairwise.nil
  induction members with
  | nil => exact fun _ h => h
  | cons m members ih => exact fun sorted h => ih _ (keysAscend_insertMember h)

/-! ## Members in ascending order -/

/-- Under each key an object has the member with that key. -/
theorem get?_obj_eq_some_iff (h : KeysAscend members) :
    (obj members).get? k = some v ↔ (k, v) ∈ members := by
  rw [get?]
  induction members with
  | nil => simp
  | cons member rest ih =>
    obtain ⟨hfirst, hrest⟩ := List.pairwise_cons.1 h
    rw [find?_cons_member, List.mem_cons]
    split
    · next heq =>
      -- no other member has the key of the first
      have hnot : (k, v) ∉ rest := fun hm => String.ne_of_lt (hfirst _ hm) heq
      obtain ⟨k', v'⟩ := member
      obtain rfl : k' = k := heq
      simp only [Option.map_some, Option.some.injEq, Prod.mk.injEq, true_and, hnot, or_false]
      exact eq_comm
    · next hne =>
      have hnot : (k, v) ≠ member := fun heq => hne (congrArg Prod.fst heq.symm)
      simp only [hnot, false_or, ih hrest]

/-- A member with a key behind all others goes to the end. -/
theorem insertMember_of_lt (h : ∀ m ∈ members, m.1 < key) :
    insertMember key v members = members ++ [(key, v)] := by
  induction members with
  | nil => rfl
  | cons member rest ih =>
    obtain ⟨hfirst, hrest⟩ := List.forall_mem_cons.1 h
    rw [insertMember_cons, if_neg (String.lt_asymm hfirst),
      if_neg (Ne.symm (String.ne_of_lt hfirst)), ih hrest, List.cons_append]

/-- Members in ascending order stay as they are. -/
theorem sortMembers_of_keysAscend (h : KeysAscend members) : sortMembers members = members := by
  suffices hfoldl : ∀ sorted, KeysAscend (sorted ++ members) →
      members.foldl (fun acc m => insertMember m.1 m.2 acc) sorted = sorted ++ members from
    hfoldl [] h
  clear h
  induction members with
  | nil => exact fun sorted _ => (List.append_nil sorted).symm
  | cons m rest ih =>
    intro sorted hsorted
    have hlt : ∀ m' ∈ sorted, m'.1 < m.1 :=
      fun m' hm' => (List.pairwise_append.1 hsorted).2.2 m' hm' m List.mem_cons_self
    rw [List.append_cons] at hsorted
    rw [List.foldl_cons, insertMember_of_lt hlt, ih _ hsorted, List.append_assoc,
      List.singleton_append]

end Descent.Value
