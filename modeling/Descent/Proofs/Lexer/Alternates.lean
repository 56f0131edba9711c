import Mathlib.Data.List.Basic
import Descent.Proofs.Lexer.Chain
import Descent.Proofs.Regex.Alternation
import Descent.Proofs.Regex.Text.Branches

/-!
# One alternation for all classes

A lexer asks its classes with one search, through an alternation in which every class has a group of
its own (`Lexer.Alternates`). The alternation matches as the first class that matches at all, and
the group tells which class that is, unless the class takes nothing; then the classes are asked one
by one. Either way the answer is the first class that takes something
(`Lexer.Alternates.matchAt?_eq`).
-/

namespace Descent.Lexer

variable {κ : Type} {l : Lexer κ}

/-- Different indices have different groups. -/
theorem groupName_injective : Function.Injective groupName := by
  intro i j h
  have hdigits : Nat.toDigits 10 i = Nat.toDigits 10 j := List.append_cancel_left h
  calc
    i = Nat.ofDigitChars 10 (Nat.toDigits 10 i) 0 := Nat.ofDigitChars_ten_toDigits.symm
    _ = Nat.ofDigitChars 10 (Nat.toDigits 10 j) 0 := by rw [hdigits]
    _ = j := Nat.ofDigitChars_ten_toDigits

/-- The alternation of some classes in order, each in its group. -/
def alternation (classes : List (TokenClass κ)) : Regex :=
  .alts (classes.zipIdx.map fun entry => .group (some (groupName entry.2)) entry.1.pattern)

/-- Whether the splitter of a lexer is the alternation of its classes, each in a group of its
own. -/
structure Alternates (l : Lexer κ) : Prop where
  splitter : l.splitter = alternation l.classes
  distinct : l.splitter.Distinct

theorem mem_groups {classes : List (TokenClass κ)} {i : Nat} (hi : i < classes.length) :
    Regex.group (some (groupName i)) classes[i].pattern ∈ classes.zipIdx.map fun entry =>
      Regex.group (some (groupName entry.2)) entry.1.pattern := by
  have hentry : (classes[i], i) ∈ classes.zipIdx := by
    rw [List.mk_mem_zipIdx_iff_getElem?]
    exact List.getElem?_eq_getElem hi
  exact List.mem_map_of_mem hentry

/-- No pattern bears the name of the group of a class. -/
theorem Alternates.own (h : l.Alternates) {c : TokenClass κ} (hc : c ∈ l.classes) {i : Nat}
    (hi : i < l.classes.length) : groupName i ∉ c.pattern.names := by
  obtain ⟨hdistinct, hparted⟩ := Regex.distinct_alts_iff.1 (h.splitter ▸ h.distinct)
  obtain ⟨j, hj, rfl⟩ := List.mem_iff_getElem.1 hc
  by_cases heq : i = j
  · subst heq
    exact (hdistinct _ (mem_groups hi)).2 (List.mem_singleton_self _)
  · have hne : Regex.group (some (groupName i)) l.classes[i].pattern
        ≠ .group (some (groupName j)) l.classes[j].pattern := by
      intro hgroup
      exact heq (groupName_injective (Option.some.inj (Regex.group.inj hgroup).1))
    intro hin
    exact hparted.disjoint (mem_groups hi) (mem_groups hj) hne (List.mem_cons_self)
      (List.mem_cons_of_mem _ hin)

/-- The reader of patterns sees to it that names are distinct. -/
theorem alternates_of_splitter [TokenKind κ] {defs : List (TokenDef κ)} (h : build defs = .ok l)
    (hsplitter : l.splitter = alternation l.classes) : l.Alternates :=
  ⟨hsplitter, Regex.Text.distinct_of_ofText? (reads_of_build h).2⟩

/-! ## Asking the classes one by one -/

/-- The first class in order whose preferred match at a place takes anything, and how many
characters it takes. -/
def firstAt? (classes : List (TokenClass κ)) (p : Place) : Option (TokenClass κ × Nat) :=
  classes.findSome? fun c => (c.pattern.matchAt? p).bind fun m =>
    if m.length = 0 then none else some (c, m.length)

theorem TokenClass.map_matchAt? (c : TokenClass κ) (p : Place) :
    (c.matchAt? p).map (fun n => (c, n)) = (c.pattern.matchAt? p).bind fun m =>
      if m.length = 0 then none else some (c, m.length) := by
  have hfind : c.matchAt? p = (c.pattern.matchAt? p).bind fun m =>
      if (0 : Nat) = 0 ∧ m.length ≠ 0 then some m.length else none :=
    c.pattern.bind_find? p fun n m hn => if_neg fun h => hn h.1
  rw [hfind, Option.map_bind]
  refine congrArg (Option.bind _) (funext fun m => ?_)
  by_cases hm : m.length = 0 <;> simp [hm]

/-! ## Through the alternation -/

/-- The alternation matches as the first class that matches at all, with the name of its group. -/
theorem Alternates.matchAt?_splitter (h : l.Alternates) (hne : l.classes ≠ []) (p : Place) :
    l.splitter.matchAt? p = l.classes.zipIdx.findSome? fun entry =>
      (entry.1.pattern.matchAt? p).map (Regex.Match.enclose (some (groupName entry.2))) := by
  have hmap : (l.classes.zipIdx.map fun entry =>
      Regex.group (some (groupName entry.2)) entry.1.pattern) ≠ [] := by
    simpa using hne
  rw [h.splitter, alternation, Regex.matchAt?_alts hmap, List.findSome?_map]
  refine congrArg (List.findSome? · _) (funext fun entry => ?_)
  exact Regex.matchAt?_group _ _ p

/-- The name of its group tells the class of a match. -/
theorem Alternates.classify?_enclose (h : l.Alternates) {c : TokenClass κ} {i : Nat}
    (hc : (c, i) ∈ l.classes.zipIdx) {groups : List (List Char)}
    (hgroups : groups ⊆ c.pattern.names) :
    l.classify? (Regex.enclose (some (groupName i)) groups) = some c := by
  obtain ⟨hi, hget⟩ := List.mem_zipIdx' hc
  have hmem : c ∈ l.classes := by
    rw [hget]
    exact List.getElem_mem hi
  have hfind : l.classes.zipIdx.find? (fun entry =>
      (Regex.enclose (some (groupName i)) groups).contains (groupName entry.2)) = some (c, i) := by
    rw [List.find?_eq_some_iff_getElem]
    refine ⟨?_, i, by simpa using hi, ?_, ?_⟩
    · rw [List.contains_iff_mem, Regex.mem_enclose]
      exact Or.inl rfl
    · rw [List.getElem_zipIdx, Nat.zero_add, ← hget]
    · -- a class before has another group, and the pattern itself has none of a class
      intro j hj
      have hne : groupName j ≠ groupName i := fun heq => Nat.ne_of_lt hj (groupName_injective heq)
      have hother : groupName j ∉ groups := fun hin =>
        h.own hmem (Nat.lt_trans hj hi) (hgroups hin)
      rw [Bool.not_eq_true', ← Bool.not_eq_true, List.contains_iff_mem, Regex.mem_enclose,
        List.getElem_zipIdx, Nat.zero_add, Option.mem_some_iff, not_or]
      exact ⟨hne.symm, hother⟩
  rw [classify?, hfind]
  rfl

/-! ## Both ways agree -/

/-- What a lexer finds at a place, told by the match of the splitter there. -/
theorem matchAt?_eq_bind (l : Lexer κ) (p : Place) :
    l.matchAt? p = (l.splitter.matchAt? p).bind fun m =>
      if m.length = 0 then firstAt? l.classes p
      else (l.classify? m.groups).map fun c => (c, m.length) := by
  have hfind := l.splitter.bind_find? p (f := fun found =>
    if found.1 ≠ 0 then none
    else if found.2.length ≠ 0 then (l.classify? found.2.groups).map fun c => (c, found.2.length)
    else l.classes.findSome? fun c => (c.matchAt? p).map fun n => (c, n)) fun n m hn => if_pos hn
  refine hfind.trans (congrArg (Option.bind _) (funext fun m => ?_))
  simp only [TokenClass.map_matchAt?]
  by_cases hm : m.length = 0 <;> simp [hm, firstAt?]

/-- What a lexer finds at a place is what its classes find one by one. -/
theorem Alternates.matchAt?_eq (h : l.Alternates) (p : Place) :
    l.matchAt? p = firstAt? l.classes p := by
  rw [matchAt?_eq_bind]
  by_cases hne : l.classes = []
  · have hfirst : firstAt? l.classes p = none := by rw [hne]; rfl
    have hclassify : ∀ groups, l.classify? groups = none := by
      intro groups
      rw [classify?, hne]
      rfl
    cases l.splitter.matchAt? p with
    | none => exact hfirst.symm
    | some m => simp [hfirst, hclassify]
  · have hsplit := h.matchAt?_splitter hne p
    have hclasses : l.classes = l.classes.zipIdx.map (·.1) := (List.zipIdx_map_fst 0 l.classes).symm
    cases hm : l.splitter.matchAt? p with
    | none =>
      -- no class matches at all
      rw [hm, eq_comm, List.findSome?_eq_none_iff] at hsplit
      rw [firstAt?, hclasses, List.findSome?_map, eq_comm, Option.bind_none,
        List.findSome?_eq_none_iff]
      intro entry hentry
      have hnone := Option.map_eq_none_iff.1 (hsplit entry hentry)
      rw [Function.comp_apply, hnone, Option.bind_none]
    | some m =>
      rw [hm, eq_comm, List.findSome?_eq_some_iff] at hsplit
      -- the first class that matches at all; those before it take nothing here
      obtain ⟨before, ⟨c, i⟩, behind, hzip, hc, hbefore⟩ := hsplit
      obtain ⟨own, hown, rfl⟩ := Option.map_eq_some_iff.1 hc
      by_cases hlength : own.length = 0
      · simp [Regex.Match.enclose, hlength]
      · have hmem : (c, i) ∈ l.classes.zipIdx := by simp [hzip]
        have hclassify := h.classify?_enclose hmem (Regex.groups_subset_names hown)
        have hfirst : firstAt? l.classes p = some (c, own.length) := by
          rw [firstAt?, hclasses, List.findSome?_map, List.findSome?_eq_some_iff]
          refine ⟨before, (c, i), behind, hzip, ?_, ?_⟩
          · rw [Function.comp_apply, hown, Option.bind_some, if_neg hlength]
          · intro entry hentry
            have hnone := Option.map_eq_none_iff.1 (hbefore entry hentry)
            rw [Function.comp_apply, hnone, Option.bind_none]
        rw [hfirst, Option.bind_some]
        exact (if_neg hlength).trans (congrArg (Option.map _) hclassify)

end Descent.Lexer
