import Descent.Proofs.Regex.Names

/-!
# Composed expressions

Sequences, alternations and repetitions are composed from parts, and composing neither makes up
groups nor names. What is composed of groups only keeps them as they are: branches that are single
groups share nothing and are no characters, so their alternation has one branch for each of them
(`Regex.seqs_choose_groups`).
-/

namespace Descent.Regex

/-! ## Names -/

theorem names_seqs (rs : List Regex) : (seqs rs).names = rs.flatMap names := by
  induction rs with
  | nil => rfl
  | cons r rest ih =>
    cases rest with
    | nil => simp [seqs]
    | cons s rest =>
      have hseqs : seqs (r :: s :: rest) = seq r (seqs (s :: rest)) := rfl
      rw [hseqs, names, ih]
      rfl

theorem names_alts (rs : List Regex) : (alts rs).names = rs.flatMap names := by
  induction rs with
  | nil => rfl
  | cons r rest ih =>
    cases rest with
    | nil => simp [alts]
    | cons s rest =>
      have halts : alts (r :: s :: rest) = alt r (alts (s :: rest)) := rfl
      rw [halts, names, ih]
      rfl

theorem flatMap_names_branches (r : Regex) : r.branches.flatMap names = r.names := by
  induction r with
  | alt a b iha ihb => rw [branches, List.flatMap_append, iha, ihb, names]
  | _ => simp [branches]

theorem names_alternation (rs : List Regex) : (alternation rs).names ⊆ rs.flatMap names := by
  unfold alternation
  simp only
  split
  · exact List.nil_subset _
  · rw [names_alts, List.flatMap_assoc]
    simp only [flatMap_names_branches]
    exact List.Subset.refl _

theorem sharedParts_isPrefix (as bs : List Regex) : sharedParts as bs <+: as := by
  induction as generalizing bs with
  | nil => cases bs <;> exact List.nil_prefix
  | cons a as ih =>
    cases bs with
    | nil => exact List.nil_prefix
    | cons b bs =>
      unfold sharedParts
      split
      · exact List.cons_prefix_cons.2 ⟨rfl, ih bs⟩
      · exact List.nil_prefix

theorem foldl_sharedParts_isPrefix (first : List Regex) (rest : List (List Regex)) :
    rest.foldl sharedParts first <+: first := by
  induction rest generalizing first with
  | nil => exact List.prefix_refl first
  | cons parts rest ih =>
    rw [List.foldl_cons]
    exact (ih (sharedParts first parts)).trans (sharedParts_isPrefix first parts)

theorem names_choose (branches : List (List Regex)) :
    (choose branches).flatMap names ⊆ branches.flatMap (·.flatMap names) := by
  cases branches with
  | nil => exact List.nil_subset _
  | cons first rest =>
    cases rest with
    | nil => exact List.subset_append_left _ _
    | cons second rest =>
      let given := first :: second :: rest
      -- what is left of the branches behind a beginning that they share
      have hparts : ∀ k, (alternation (given.map fun parts => seqs (parts.drop k))).names
          ⊆ given.flatMap (·.flatMap names) := by
        intro k n hn
        obtain ⟨r, hr, hn⟩ := List.mem_flatMap.1 (names_alternation _ hn)
        obtain ⟨parts, hparts, rfl⟩ := List.mem_map.1 hr
        rw [names_seqs] at hn
        obtain ⟨part, hpart, hn⟩ := List.mem_flatMap.1 hn
        exact List.mem_flatMap.2
          ⟨parts, hparts, List.mem_flatMap.2 ⟨part, List.mem_of_mem_drop hpart, hn⟩⟩
      unfold choose
      simp only
      split
      · rw [List.flatMap_append, List.flatMap_singleton]
        refine List.append_subset.2 ⟨?_, hparts _⟩
        intro n hn
        obtain ⟨part, hpart, hn⟩ := List.mem_flatMap.1 hn
        have hfirst : part ∈ first :=
          (foldl_sharedParts_isPrefix first (second :: rest)).subset hpart
        exact List.mem_flatMap.2
          ⟨first, List.mem_cons_self, List.mem_flatMap.2 ⟨part, hfirst, hn⟩⟩
      · rw [List.flatMap_singleton]
        exact hparts 0

theorem names_upTo (r : Regex) (greedy : Bool) (n : Nat) : (upTo r greedy n).names ⊆ r.names := by
  induction n with
  | zero => exact List.nil_subset _
  | succ n ih =>
    cases n with
    | zero => exact List.Subset.refl _
    | succ n => exact List.append_subset.2 ⟨List.Subset.refl _, ih⟩

theorem names_anyNumber (r : Regex) (greedy : Bool) : (anyNumber r greedy).names = r.names := by
  unfold anyNumber
  split <;> rfl

/-- Copies of an expression, with something behind them that has no more names than it. -/
theorem names_copies (n : Nat) {r last : Regex} (hlast : last.names ⊆ r.names) :
    (seqs (List.replicate n r ++ [last])).names ⊆ r.names := by
  rw [names_seqs, List.flatMap_append, List.flatMap_singleton]
  refine List.append_subset.2 ⟨?_, hlast⟩
  intro name hname
  obtain ⟨copy, hcopy, hname⟩ := List.mem_flatMap.1 hname
  rwa [(List.mem_replicate.1 hcopy).2] at hname

theorem names_repeated (parts : List Regex) (rounds : Rounds) :
    (repeated parts rounds).flatMap names ⊆ parts.flatMap names := by
  have hseqs := names_seqs parts
  unfold repeated
  simp only
  split
  · exact List.nil_subset _
  · exact List.Subset.refl _
  · rw [List.flatMap_singleton, names_anyNumber, hseqs]
    exact List.Subset.refl _
  · rw [List.flatMap_singleton, ← hseqs]
    exact names_copies _ (List.Subset.refl _)
  · split
    · rw [List.flatMap_singleton, names_seqs]
      intro name hname
      obtain ⟨copy, hcopy, hname⟩ := List.mem_flatMap.1 hname
      rwa [(List.mem_replicate.1 hcopy).2, hseqs] at hname
    · rw [List.flatMap_singleton, ← hseqs]
      exact names_copies _ (names_upTo _ _ _)

/-! ## Groups -/

/-- Groups are the branches of their alternation. -/
theorem alternation_groups {gs : List (Option (List Char) × Regex)} (hne : gs ≠ []) :
    alternation (gs.map fun g => group g.1 g.2) = alts (gs.map fun g => group g.1 g.2) := by
  have hbranches : (gs.map fun g => group g.1 g.2).flatMap branches
      = gs.map fun g => group g.1 g.2 := by
    rw [List.flatMap_map]
    exact List.map_eq_flatMap.symm
  unfold alternation
  rw [hbranches]
  cases gs with
  | nil => exact absurd rfl hne
  | cons g gs => rfl

/-- The parts of a choice between groups are one alternation of them. -/
theorem seqs_choose_groups (gs : List (Option (List Char) × Regex)) :
    seqs (choose (gs.map fun g => [group g.1 g.2])) = alts (gs.map fun g => group g.1 g.2) := by
  cases gs with
  | nil => rfl
  | cons first rest =>
    cases rest with
    | nil => rfl
    | cons second rest =>
      have hchoose : choose ((first :: second :: rest).map fun g => [group g.1 g.2])
          = [alternation (((first :: second :: rest).map fun g => [group g.1 g.2]).map seqs)] := rfl
      have hmap : (((first :: second :: rest).map fun g => [group g.1 g.2]).map seqs)
          = (first :: second :: rest).map fun g => group g.1 g.2 := by
        rw [List.map_map]
        rfl
      rw [hchoose, hmap]
      exact alternation_groups (List.cons_ne_nil _ _)

end Descent.Regex
