import Mathlib.Data.List.Pairwise
import Descent.Proofs.Regex.Composition

/-!
# Distinct names

In an expression whose names are distinct a name tells more than that some group bears it: the
expressions of an alternation share none, and no group has its own name inside (`Regex.Distinct`).
A name may still stand at two places, since a repetition is written out in copies; but these stand
one after the other.

Sequences, alternations and repetitions of distinct parts are distinct, as long as the branches of
an alternation are parted (`Regex.Parted`).
-/

namespace Descent.Regex

/-- Whether no name stands in two expressions of an alternation, or inside a group that bears it. -/
def Distinct : Regex → Prop
  | empty | one _ | anchor _ => True
  | seq first second => first.Distinct ∧ second.Distinct
  | alt first second => first.Distinct ∧ second.Distinct ∧ first.names.Disjoint second.names
  | group name body => body.Distinct ∧ name.toList.Disjoint body.names
  | optional body _ | star body _ | plus body _ => body.Distinct

theorem distinct_of_names_eq_nil {r : Regex} (h : r.names = []) : r.Distinct := by
  induction r with
  | empty => trivial
  | one => trivial
  | anchor => trivial
  | seq first second ihfirst ihsecond =>
    obtain ⟨hfirst, hsecond⟩ := List.append_eq_nil_iff.1 h
    exact ⟨ihfirst hfirst, ihsecond hsecond⟩
  | alt first second ihfirst ihsecond =>
    obtain ⟨hfirst, hsecond⟩ := List.append_eq_nil_iff.1 h
    refine ⟨ihfirst hfirst, ihsecond hsecond, ?_⟩
    rw [hfirst]
    exact List.disjoint_nil_left _
  | group name body ih =>
    obtain ⟨-, hbody⟩ := List.append_eq_nil_iff.1 h
    refine ⟨ih hbody, ?_⟩
    rw [hbody]
    exact List.disjoint_nil_right _
  | optional body greedy ih => exact ih h
  | star body greedy ih => exact ih h
  | plus body greedy ih => exact ih h

/-- Whether no two expressions of a list share a name. -/
def Parted (rs : List Regex) : Prop := rs.Pairwise fun a b => a.names.Disjoint b.names

theorem Parted.disjoint {rs : List Regex} (h : Parted rs) {a b : Regex} (ha : a ∈ rs) (hb : b ∈ rs)
    (hne : a ≠ b) : a.names.Disjoint b.names := by
  have : Std.Symm fun a b : Regex => a.names.Disjoint b.names := ⟨fun _ _ hab _ hb ha => hab ha hb⟩
  exact List.Pairwise.forall h ha hb hne

/-! ## Sequences and alternations -/

theorem distinct_seqs {rs : List Regex} (h : ∀ r ∈ rs, r.Distinct) : (seqs rs).Distinct := by
  induction rs with
  | nil => trivial
  | cons r rest ih =>
    obtain ⟨hr, hrest⟩ := List.forall_mem_cons.1 h
    cases rest with
    | nil => exact hr
    | cons s rest => exact ⟨hr, ih hrest⟩

theorem disjoint_flatMap_iff {ns : List (List Char)} {rs : List Regex} :
    ns.Disjoint (rs.flatMap names) ↔ ∀ r ∈ rs, ns.Disjoint r.names := by
  constructor
  · intro h r hr n hn hin
    exact h hn (List.mem_flatMap.2 ⟨r, hr, hin⟩)
  · intro h n hn hin
    obtain ⟨r, hr, hin⟩ := List.mem_flatMap.1 hin
    exact h r hr hn hin

theorem distinct_alts_iff {rs : List Regex} :
    (alts rs).Distinct ↔ (∀ r ∈ rs, r.Distinct) ∧ Parted rs := by
  induction rs with
  | nil => simp [alts, Distinct, Parted]
  | cons r rest ih =>
    cases rest with
    | nil => simp [alts, Parted]
    | cons s rest =>
      have halts : alts (r :: s :: rest) = alt r (alts (s :: rest)) := rfl
      rw [halts, Distinct, ih, names_alts, disjoint_flatMap_iff]
      generalize s :: rest = rs
      rw [List.forall_mem_cons, Parted, Parted, List.pairwise_cons]
      constructor
      · rintro ⟨hr, ⟨hrs, hparted⟩, hfirst⟩
        exact ⟨⟨hr, hrs⟩, hfirst, hparted⟩
      · rintro ⟨⟨hr, hrs⟩, hfirst, hparted⟩
        exact ⟨hr, ⟨hrs, hparted⟩, hfirst⟩

theorem distinct_branches {r : Regex} (h : r.Distinct) :
    (∀ b ∈ r.branches, b.Distinct) ∧ Parted r.branches := by
  have hself : ∀ r : Regex, r.Distinct → (∀ b ∈ [r], b.Distinct) ∧ Parted [r] := fun r hr =>
    ⟨List.forall_mem_singleton.2 hr, List.pairwise_singleton _ r⟩
  induction r with
  | alt a b iha ihb =>
    obtain ⟨ha, hb, hnames⟩ := h
    obtain ⟨hdistinctA, hpartedA⟩ := iha ha
    obtain ⟨hdistinctB, hpartedB⟩ := ihb hb
    refine ⟨List.forall_mem_append.2 ⟨hdistinctA, hdistinctB⟩,
      List.pairwise_append.2 ⟨hpartedA, hpartedB, ?_⟩⟩
    rw [← flatMap_names_branches a, ← flatMap_names_branches b] at hnames
    intro c hc d hd n hnc hnd
    exact hnames (List.mem_flatMap.2 ⟨c, hc, hnc⟩) (List.mem_flatMap.2 ⟨d, hd, hnd⟩)
  | _ => exact hself _ h

theorem distinct_alternation {rs : List Regex} (h : ∀ r ∈ rs, r.Distinct) (hparted : Parted rs) :
    (alternation rs).Distinct := by
  unfold alternation
  simp only
  split
  · trivial
  · rw [distinct_alts_iff]
    constructor
    · intro b hb
      obtain ⟨r, hr, hb⟩ := List.mem_flatMap.1 hb
      exact (distinct_branches (h r hr)).1 b hb
    · refine List.pairwise_flatMap.2 ⟨fun r hr => (distinct_branches (h r hr)).2, ?_⟩
      refine List.Pairwise.imp ?_ hparted
      -- a branch has no more names than the expression it is taken from
      intro a b hab c hc d hd n hnc hnd
      rw [← flatMap_names_branches a, ← flatMap_names_branches b] at hab
      exact hab (List.mem_flatMap.2 ⟨c, hc, hnc⟩) (List.mem_flatMap.2 ⟨d, hd, hnd⟩)

/-! ## Branches given by their parts -/

/-- Whether all parts of some branches have distinct names, no two branches share a name, and all
names are taken. -/
structure DistinctBranches (taken : List (List Char)) (branches : List (List Regex)) : Prop where
  parts : ∀ parts ∈ branches, ∀ r ∈ parts, r.Distinct
  parted : branches.Pairwise fun a b => (a.flatMap names).Disjoint (b.flatMap names)
  subset : ∀ parts ∈ branches, parts.flatMap names ⊆ taken

namespace DistinctBranches

variable {taken taken' : List (List Char)} {branches : List (List Regex)}
  {parts others : List Regex}

theorem nothing (taken : List (List Char)) : DistinctBranches taken [[]] :=
  ⟨List.forall_mem_singleton.2 nofun, List.pairwise_singleton _ _,
    List.forall_mem_singleton.2 (List.nil_subset taken)⟩

theorem reverse (h : DistinctBranches taken branches) :
    DistinctBranches taken branches.reverse := by
  refine ⟨fun parts hparts => h.parts parts (List.mem_reverse.1 hparts), ?_,
    fun parts hparts => h.subset parts (List.mem_reverse.1 hparts)⟩
  rw [List.pairwise_reverse]
  refine h.parted.imp ?_
  intro a b hab n hb ha
  exact hab ha hb

/-- One more branch that has nothing in it yet. -/
theorem cons_nil (h : DistinctBranches taken branches) : DistinctBranches taken ([] :: branches) :=
  ⟨List.forall_mem_cons.2 ⟨nofun, h.parts⟩, .cons (fun _ _ => List.disjoint_nil_left _) h.parted,
    List.forall_mem_cons.2 ⟨List.nil_subset taken, h.subset⟩⟩

/-- Other parts in the first branch, with no more names than those that were there. -/
theorem replace (h : DistinctBranches taken (parts :: branches))
    (hothers : ∀ r ∈ others, r.Distinct) (hnames : others.flatMap names ⊆ parts.flatMap names) :
    DistinctBranches taken (others :: branches) := by
  obtain ⟨-, hbranches⟩ := List.forall_mem_cons.1 h.parts
  obtain ⟨hparts, hsubset⟩ := List.forall_mem_cons.1 h.subset
  obtain ⟨hfirst, hparted⟩ := List.pairwise_cons.1 h.parted
  refine ⟨List.forall_mem_cons.2 ⟨hothers, hbranches⟩, .cons (fun b hb => ?_) hparted,
    List.forall_mem_cons.2 ⟨List.Subset.trans hnames hparts, hsubset⟩⟩
  exact List.disjoint_of_subset_left hnames (hfirst b hb)

/-- More parts in the first branch, with names that have not been taken before. -/
theorem append (h : DistinctBranches taken (parts :: branches)) (htaken : taken ⊆ taken')
    (hothers : ∀ r ∈ others, r.Distinct)
    (hnew : ∀ n ∈ others.flatMap names, n ∈ taken' ∧ n ∉ taken) :
    DistinctBranches taken' ((parts ++ others) :: branches) := by
  obtain ⟨hparts, hbranches⟩ := List.forall_mem_cons.1 h.parts
  obtain ⟨hfirst, hparted⟩ := List.pairwise_cons.1 h.parted
  obtain ⟨hnames, hsubset⟩ := List.forall_mem_cons.1 h.subset
  constructor
  · exact List.forall_mem_cons.2 ⟨List.forall_mem_append.2 ⟨hparts, hothers⟩, hbranches⟩
  · refine .cons (fun b hb => ?_) hparted
    rw [List.flatMap_append, List.disjoint_append_left]
    exact ⟨hfirst b hb, fun n hn hin => (hnew n hn).2 (hsubset b hb hin)⟩
  · refine List.forall_mem_cons.2 ⟨?_, fun b hb => List.Subset.trans (hsubset b hb) htaken⟩
    rw [List.flatMap_append]
    exact List.append_subset.2 ⟨List.Subset.trans hnames htaken, fun n hn => (hnew n hn).1⟩

end DistinctBranches

theorem distinct_choose {taken : List (List Char)} {branches : List (List Regex)}
    (h : DistinctBranches taken branches) :
    ∀ r ∈ choose branches, r.Distinct := by
  -- wherever the branches give up what they begin with, the rest of them is parted too
  have hrest : ∀ k, (alternation (branches.map fun parts => seqs (parts.drop k))).Distinct := by
    intro k
    apply distinct_alternation
    · intro r hr
      obtain ⟨parts, hparts, rfl⟩ := List.mem_map.1 hr
      exact distinct_seqs fun r hr => h.parts parts hparts r (List.mem_of_mem_drop hr)
    · refine List.pairwise_map.2 (h.parted.imp ?_)
      intro a b hab
      rw [names_seqs, names_seqs]
      have hdrop : ∀ parts : List Regex, (parts.drop k).flatMap names ⊆ parts.flatMap names := by
        intro parts n hn
        obtain ⟨r, hr, hn⟩ := List.mem_flatMap.1 hn
        exact List.mem_flatMap.2 ⟨r, List.mem_of_mem_drop hr, hn⟩
      exact List.disjoint_of_subset_left (hdrop a) (List.disjoint_of_subset_right (hdrop b) hab)
  cases branches with
  | nil => nofun
  | cons first rest =>
    cases rest with
    | nil => exact h.parts first (List.mem_singleton_self first)
    | cons second rest =>
      unfold choose
      simp only
      split
      · refine List.forall_mem_append.2 ⟨fun r hr => ?_, List.forall_mem_singleton.2 (hrest _)⟩
        have hfirst : r ∈ first := (foldl_sharedParts_isPrefix first (second :: rest)).subset hr
        exact h.parts first List.mem_cons_self r hfirst
      · exact List.forall_mem_singleton.2 (hrest 0)

/-! ## Repetitions -/

theorem distinct_upTo {r : Regex} (h : r.Distinct) (greedy : Bool) (n : Nat) :
    (upTo r greedy n).Distinct := by
  induction n with
  | zero => trivial
  | succ n ih =>
    cases n with
    | zero => exact h
    | succ n => exact ⟨h, ih⟩

theorem distinct_copies (n : Nat) {r last : Regex} (h : r.Distinct) (hlast : last.Distinct) :
    (seqs (List.replicate n r ++ [last])).Distinct := by
  refine distinct_seqs (List.forall_mem_append.2 ⟨?_, List.forall_mem_singleton.2 hlast⟩)
  intro copy hcopy
  rwa [(List.mem_replicate.1 hcopy).2]

theorem distinct_repeated {parts : List Regex} (h : ∀ r ∈ parts, r.Distinct) (rounds : Rounds) :
    ∀ r ∈ repeated parts rounds, r.Distinct := by
  have hseqs : (seqs parts).Distinct := distinct_seqs h
  unfold repeated
  simp only
  split
  · nofun
  · exact h
  · refine List.forall_mem_singleton.2 ?_
    unfold anyNumber
    split
    · exact hseqs
    · exact hseqs
  · exact List.forall_mem_singleton.2 (distinct_copies _ hseqs hseqs)
  · split
    · refine List.forall_mem_singleton.2 (distinct_seqs fun copy hcopy => ?_)
      rwa [(List.mem_replicate.1 hcopy).2]
    · exact List.forall_mem_singleton.2 (distinct_copies _ hseqs (distinct_upTo hseqs _ _))

end Descent.Regex
