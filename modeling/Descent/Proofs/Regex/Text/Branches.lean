import Descent.Proofs.Regex.Distinct
import Descent.Proofs.Regex.Text.Pattern

/-!
# How a pattern is read

`Text.Reads` says what the reader of patterns does, one rule for each thing it may meet, and without
fuel. By induction on it one sees that the reader works through the text from the front, that the
names of the groups it makes are new (`Reads.names`) and so distinct (`Reads.distinct`), and that
more text behind changes nothing (`Reads.agree`): another reading of the same text with more behind
it, if it comes to an end, has read the same.
-/

namespace Descent.Regex.Text

/-- The flags inside a group and what its parts become outside, or nothing for a mere change of
flags. -/
def Opening.inside? (flags : Flags) : Opening → Option (Flags × (List Regex → List Regex))
  | .flags _ => none
  | .plain inside => some (inside, id)
  | .capture name => some (flags, fun parts => [group name (seqs parts)])

/-! ## One step -/

section

variable {fuel : Nat} {branches : List (List Regex)} {items : Items} {s : Reading}
  {behind : List Char}

theorem readBranches?_stop (h : skip s.flags.extended s.rest = []) :
    readBranches? (fuel + 1) branches items s
      = some (choose (items.parts :: branches).reverse, { s with rest := [] }) := by
  rw [readBranches?, h]

theorem readBranches?_close (h : skip s.flags.extended s.rest = ')' :: behind) :
    readBranches? (fuel + 1) branches items s
      = some (choose (items.parts :: branches).reverse, { s with rest := ')' :: behind }) := by
  rw [readBranches?, h]
  simp only

theorem readBranches?_bar (h : skip s.flags.extended s.rest = '|' :: behind) :
    readBranches? (fuel + 1) branches items s
      = readBranches? fuel (items.parts :: branches) [] { s with rest := behind } := by
  rw [readBranches?, h]
  simp only

theorem readBranches?_none (h : skip s.flags.extended s.rest = '(' :: behind)
    (hopen : readOpening? { s with rest := behind } = none) :
    readBranches? (fuel + 1) branches items s = none := by
  rw [readBranches?, h]
  simp only [hopen]
  rfl

theorem exists_readOpening? {parts : List Regex} {after : Reading}
    (h : skip s.flags.extended s.rest = '(' :: behind)
    (hread : readBranches? (fuel + 1) branches items s = some (parts, after)) :
    ∃ opening inner, readOpening? { s with rest := behind } = some (opening, inner) := by
  cases hopen : readOpening? { s with rest := behind } with
  | some found => exact ⟨found.1, found.2, rfl⟩
  | none =>
    rw [readBranches?_none h hopen] at hread
    nomatch hread

theorem readBranches?_flags (h : skip s.flags.extended s.rest = '(' :: behind) {flags : Flags}
    {inner : Reading}
    (hopen : readOpening? { s with rest := behind } = some (.flags flags, inner)) :
    readBranches? (fuel + 1) branches items s
      = readBranches? fuel branches (none :: items) { inner with flags } := by
  rw [readBranches?, h]
  simp only [hopen]
  rfl

theorem readBranches?_group (h : skip s.flags.extended s.rest = '(' :: behind) {opening : Opening}
    {inner : Reading} (hopen : readOpening? { s with rest := behind } = some (opening, inner))
    {flags : Flags} {wrap : List Regex → List Regex}
    (hinside : opening.inside? inner.flags = some (flags, wrap)) :
    readBranches? (fuel + 1) branches items s =
      (readBranches? fuel [] [] { inner with flags }).bind fun body =>
        (closed? body.2.rest).bind fun rest =>
          readBranches? fuel branches (some (wrap body.1) :: items)
            { body.2 with flags := s.flags, rest } := by
  rw [readBranches?, h]
  simp only [hopen]
  cases opening with
  | flags => cases hinside
  | plain inside =>
    obtain ⟨rfl, rfl⟩ := Prod.mk.inj (Option.some.inj hinside)
    rfl
  | capture name =>
    obtain ⟨rfl, rfl⟩ := Prod.mk.inj (Option.some.inj hinside)
    rfl

theorem readBranches?_class (h : skip s.flags.extended s.rest = '[' :: behind) :
    readBranches? (fuel + 1) branches items s = (readClass? s.flags behind).bind fun found =>
      readBranches? fuel branches (some [.one found.1] :: items) { s with rest := found.2 } := by
  rw [readBranches?, h]
  rfl

/-- Whether a character begins neither a group nor a bracket and ends no branch. -/
def isPlain (c : Char) : Bool := c != ')' && c != '|' && c != '(' && c != '['

theorem readBranches?_plain {c : Char} (h : skip s.flags.extended s.rest = c :: behind)
    (hc : isPlain c) :
    readBranches? (fuel + 1) branches items s =
      match readRounds? s.flags (c :: behind) with
      | some repetition => repetition.bind fun found =>
        match items with
        | some parts :: items =>
          readBranches? fuel branches (some (repeated parts found.1) :: items)
            { s with rest := found.2 }
        | _ => none
      | none => (readItem? s.flags (c :: behind)).bind fun found =>
        readBranches? fuel branches (some [found.1] :: items) { s with rest := found.2 } := by
  simp only [isPlain, Bool.and_eq_true, bne_iff_ne] at hc
  obtain ⟨⟨⟨hclose, hbar⟩, hopen⟩, hbracket⟩ := hc
  rw [readBranches?, h]
  simp only
  split
  · next heq => exact absurd heq (List.cons_ne_nil c behind)
  · next heq => exact absurd (List.cons.inj heq).1 hclose
  · next heq => exact absurd (List.cons.inj heq).1 hbar
  · next heq => exact absurd (List.cons.inj heq).1 hopen
  · next heq => exact absurd (List.cons.inj heq).1 hbracket
  · cases readRounds? s.flags (c :: behind) <;> rfl

theorem exists_fuel {parts : List Regex} {after : Reading}
    (h : readBranches? fuel branches items s = some (parts, after)) : ∃ n, fuel = n + 1 := by
  cases fuel with
  | zero =>
    rw [readBranches?_zero] at h
    nomatch h
  | succ n => exact ⟨n, rfl⟩

end

/-! ## Whole readings -/

/-- What the reader does with some text, given the branches and the items it has read. -/
inductive Reads : List (List Regex) → Items → Reading → List Regex → Reading → Prop
  /-- The text has come to its end. -/
  | stop {branches items s} : skip s.flags.extended s.rest = [] →
    Reads branches items s (choose (items.parts :: branches).reverse) { s with rest := [] }
  /-- A closing parenthesis is left to whoever has opened it. -/
  | close {branches items s behind} : skip s.flags.extended s.rest = ')' :: behind →
    Reads branches items s (choose (items.parts :: branches).reverse)
      { s with rest := ')' :: behind }
  /-- Another branch. -/
  | bar {branches items s behind parts after} : skip s.flags.extended s.rest = '|' :: behind →
    Reads (items.parts :: branches) [] { s with rest := behind } parts after →
    Reads branches items s parts after
  /-- A change of flags. -/
  | flags {branches items s behind flags inner parts after} :
    skip s.flags.extended s.rest = '(' :: behind →
    readOpening? { s with rest := behind } = some (.flags flags, inner) →
    Reads branches (none :: items) { inner with flags } parts after →
    Reads branches items s parts after
  /-- A group, and what follows it. -/
  | group {branches items s behind opening inner flags wrap body middle rest parts after} :
    skip s.flags.extended s.rest = '(' :: behind →
    readOpening? { s with rest := behind } = some (opening, inner) →
    opening.inside? inner.flags = some (flags, wrap) →
    Reads [] [] { inner with flags } body middle → closed? middle.rest = some rest →
    Reads branches (some (wrap body) :: items) { middle with flags := s.flags, rest } parts after →
    Reads branches items s parts after
  /-- A bracket. -/
  | bracket {branches items s behind chars rest parts after} :
    skip s.flags.extended s.rest = '[' :: behind → readClass? s.flags behind = some (chars, rest) →
    Reads branches (some [.one chars] :: items) { s with rest } parts after →
    Reads branches items s parts after
  /-- A repetition of the last item. -/
  | rounds {branches items s c behind rounds rest last parts after} :
    skip s.flags.extended s.rest = c :: behind → isPlain c →
    readRounds? s.flags (c :: behind) = some (some (rounds, rest)) →
    Reads branches (some (repeated last rounds) :: items) { s with rest } parts after →
    Reads branches (some last :: items) s parts after
  /-- Any other item. -/
  | item {branches items s c behind item rest parts after} :
    skip s.flags.extended s.rest = c :: behind → isPlain c →
    readRounds? s.flags (c :: behind) = none → readItem? s.flags (c :: behind) = some (item, rest) →
    Reads branches (some [item] :: items) { s with rest } parts after →
    Reads branches items s parts after

/-- What the reader gives, it has read by the rules. -/
theorem reads_of_readBranches? {fuel : Nat} {branches : List (List Regex)} {items : Items}
    {s after : Reading} {parts : List Regex}
    (h : readBranches? fuel branches items s = some (parts, after)) :
    Reads branches items s parts after := by
  induction fuel generalizing branches items s parts after with
  | zero => nomatch h
  | succ fuel ih =>
    cases hskip : skip s.flags.extended s.rest with
    | nil =>
      rw [readBranches?_stop hskip] at h
      obtain ⟨rfl, rfl⟩ := Prod.mk.inj (Option.some.inj h)
      exact .stop hskip
    | cons c behind =>
      -- the characters in the order in which the reader looks for them
      by_cases hclose : c = ')'
      · subst hclose
        rw [readBranches?_close hskip] at h
        obtain ⟨rfl, rfl⟩ := Prod.mk.inj (Option.some.inj h)
        exact .close hskip
      by_cases hbar : c = '|'
      · subst hbar
        rw [readBranches?_bar hskip] at h
        exact .bar hskip (ih h)
      by_cases hopen : c = '('
      · subst hopen
        obtain ⟨opening, inner, hopening⟩ := exists_readOpening? hskip h
        -- flags hold from here on, and any other opening has an inside of its own
        cases hinside : opening.inside? inner.flags with
        | none =>
          cases opening with
          | flags flags =>
            rw [readBranches?_flags hskip hopening] at h
            exact .flags hskip hopening (ih h)
          | plain => nomatch hinside
          | capture => nomatch hinside
        | some inside =>
          obtain ⟨flags, wrap⟩ := inside
          rw [readBranches?_group hskip hopening hinside] at h
          obtain ⟨⟨body, middle⟩, hbody, h⟩ := Option.bind_eq_some_iff.1 h
          obtain ⟨rest, hrest, h⟩ := Option.bind_eq_some_iff.1 h
          exact .group hskip hopening hinside (ih hbody) hrest (ih h)
      by_cases hbracket : c = '['
      · subst hbracket
        rw [readBranches?_class hskip] at h
        obtain ⟨⟨chars, rest⟩, hclass, h⟩ := Option.bind_eq_some_iff.1 h
        exact .bracket hskip hclass (ih h)
      have hplain : isPlain c := by simp [isPlain, hclose, hbar, hopen, hbracket]
      cases hrounds : readRounds? s.flags (c :: behind) with
      | some repetition =>
        rw [readBranches?_plain hskip hplain, hrounds] at h
        simp only at h
        obtain ⟨⟨rounds, rest⟩, rfl, h⟩ := Option.bind_eq_some_iff.1 h
        split at h
        · exact .rounds hskip hplain hrounds (ih h)
        · nomatch h
      | none =>
        rw [readBranches?_plain hskip hplain, hrounds] at h
        obtain ⟨⟨item, rest⟩, hitem, h⟩ := Option.bind_eq_some_iff.1 h
        exact .item hskip hplain hrounds hitem (ih h)

theorem eq_cons_of_closed? {text rest : List Char} (h : closed? text = some rest) :
    text = ')' :: rest := by
  unfold closed? at h
  split at h
  · rw [Option.some.inj h]
  · nomatch h

/-! ## Names -/

theorem parts_cons_some (parts : List Regex) (items : Items) :
    Items.parts (some parts :: items) = items.parts ++ parts := by
  simp [Items.parts]

theorem parts_cons_none (items : Items) : Items.parts (none :: items) = items.parts := by
  simp [Items.parts]

theorem charExpr?_names {flags : Flags} {c : Char} {byte : Bool} {r : Regex}
    (h : charExpr? flags c byte = some r) : r.names = [] := by
  unfold charExpr? at h
  split at h
  · rw [← Option.some.inj h, names]
  · split at h
    · rw [← Option.some.inj h, names]
    · split at h
      · contradiction
      · rw [← Option.some.inj h, names]

/-- Items capture nothing. -/
theorem readItem?_names {flags : Flags} {text rest : List Char} {r : Regex}
    (h : readItem? flags text = some (r, rest)) : r.names = [] := by
  unfold readItem? at h
  split at h
  · nomatch h
  · obtain ⟨⟨atom, left⟩, -, h⟩ := Option.bind_eq_some_iff.1 h
    simp only at h
    split at h
    · obtain ⟨_, hchar, heq⟩ := Option.map_eq_some_iff.1 h
      rw [← (Prod.mk.inj heq).1, charExpr?_names hchar]
    · rw [← (Prod.mk.inj (Option.some.inj h)).1, names]
    · rw [← (Prod.mk.inj (Option.some.inj h)).1, names]
  · split at h
    · rw [← (Prod.mk.inj (Option.some.inj h)).1, names]
    · nomatch h
  · rw [← (Prod.mk.inj (Option.some.inj h)).1, names]
  · rw [← (Prod.mk.inj (Option.some.inj h)).1, names]
  · obtain ⟨_, hchar, heq⟩ := Option.map_eq_some_iff.1 h
    rw [← (Prod.mk.inj heq).1, charExpr?_names hchar]

/-- A group has the name of its opening and those of its body. -/
theorem names_of_inside? {opening : Opening} {flags inside : Flags}
    {wrap : List Regex → List Regex} (h : opening.inside? flags = some (inside, wrap))
    (body : List Regex) : (wrap body).flatMap names = opening.names ++ body.flatMap names := by
  cases opening with
  | flags => nomatch h
  | plain => rw [← (Prod.mk.inj (Option.some.inj h)).2]; rfl
  | capture name =>
    rw [← (Prod.mk.inj (Option.some.inj h)).2, List.flatMap_singleton, names, names_seqs]
    rfl

/-- A group whose name is new is as distinct as its body. -/
theorem distinct_of_inside? {opening : Opening} {flags inside : Flags}
    {wrap : List Regex → List Regex} (h : opening.inside? flags = some (inside, wrap))
    {body : List Regex} (hbody : ∀ r ∈ body, r.Distinct)
    (hnew : opening.names.Disjoint (body.flatMap names)) : ∀ r ∈ wrap body, r.Distinct := by
  cases opening with
  | flags => nomatch h
  | plain => rwa [← (Prod.mk.inj (Option.some.inj h)).2]
  | capture name =>
    rw [← (Prod.mk.inj (Option.some.inj h)).2, List.forall_mem_singleton, Distinct, names_seqs]
    exact ⟨distinct_seqs hbody, hnew⟩

/-- An opening adds its own name to those there are. -/
theorem names_of_readOpening? {s inner : Reading} {opening : Opening}
    (h : readOpening? s = some (opening, inner)) :
    opening.names ⊆ inner.names ∧ s.names ⊆ inner.names := by
  obtain ⟨-, -, hnames, -⟩ := readOpening?_cases h
  rw [hnames]
  exact ⟨List.subset_append_left _ _, List.subset_append_right _ _⟩

/-! ## Openings in front of more text -/

theorem readOpening?_agree {s s' inner inner' : Reading} {opening opening' : Opening}
    {more : List Char} (h : readOpening? s = some (opening, inner))
    (h' : readOpening? s' = some (opening', inner')) (hflags : s'.flags = s.flags)
    (hrest : s'.rest = s.rest ++ more) (hmore : inner.rest = [] → more = [')']) :
    opening' = opening ∧ inner'.flags = inner.flags ∧ Follows more inner.rest inner'.rest := by
  obtain ⟨hread, hinner, -⟩ := readOpening?_cases h
  obtain ⟨hread', hinner', -⟩ := readOpening?_cases h'
  obtain ⟨rest', hsame, hfollows⟩ := (local_opening? s.flags).append hread hmore
  rw [hflags, hrest, hsame] at hread'
  obtain ⟨rfl, rfl⟩ := Prod.mk.inj (Option.some.inj hread')
  exact ⟨rfl, by rw [hinner', hinner, hflags], hfollows⟩

theorem skip_reading_eq_cons {s s' : Reading} {behind more : List Char} {c : Char}
    (h : skip s.flags.extended s.rest = c :: behind) (hflags : s'.flags = s.flags)
    (hrest : Follows more s.rest s'.rest) :
    skip s'.flags.extended s'.rest = c :: (behind ++ more) := by
  rw [hflags]
  exact skip_eq_cons h hrest

/-! ## What every reading does -/

namespace Reads

variable {branches : List (List Regex)} {items : Items} {s after : Reading} {parts : List Regex}

/-- The reader works through the text from the front. -/
theorem suffix (h : Reads branches items s parts after) : after.rest <:+ s.rest := by
  have hbehind : ∀ {extended text behind} {c : Char}, skip extended text = c :: behind →
      behind <:+ text := fun hskip => (List.suffix_cons _ _).trans (suffix_of_skip hskip)
  induction h with
  | stop => exact List.nil_suffix
  | close hskip => exact suffix_of_skip hskip
  | bar hskip _ ih => exact ih.trans (hbehind hskip)
  | flags hskip hopening _ ih =>
    have hinner := (local_opening? _).suffix (readOpening?_cases hopening).1
    exact (ih.trans hinner).trans (hbehind hskip)
  | group hskip hopening hinside _ hclosed _ ihbody ih =>
    have hinner := (local_opening? _).suffix (readOpening?_cases hopening).1
    rw [eq_cons_of_closed? hclosed] at ihbody
    have hrest := (ih.trans (List.suffix_cons ')' _)).trans ihbody
    exact (hrest.trans hinner).trans (hbehind hskip)
  | bracket hskip hclass _ ih =>
    exact (ih.trans ((local_readClass? _).suffix hclass)).trans (hbehind hskip)
  | rounds hskip _ hrounds _ ih =>
    have hrest := (local_readRounds? _).suffix (by rw [hrounds]; rfl)
    exact (ih.trans hrest).trans (suffix_of_skip hskip)
  | item hskip _ _ hitem _ ih =>
    exact (ih.trans ((local_readItem? _).suffix hitem)).trans (suffix_of_skip hskip)

theorem rest_eq_nil (h : Reads branches items s parts after) (hnil : s.rest = []) :
    after.rest = [] := by
  have hsuffix := h.suffix
  rw [hnil] at hsuffix
  exact List.suffix_nil.1 hsuffix

/-- Names are only added, and a name of what is read is either that of something read before or
new. -/
theorem names (h : Reads branches items s parts after) :
    s.names ⊆ after.names ∧ ∀ n ∈ parts.flatMap Regex.names,
      n ∈ (items.parts :: branches).flatMap (·.flatMap Regex.names) ∨
        n ∈ after.names ∧ n ∉ s.names := by
  have hchoose : ∀ (branches : List (List Regex)) n,
      n ∈ (choose branches.reverse).flatMap Regex.names →
        n ∈ branches.flatMap (·.flatMap Regex.names) := by
    intro branches n hn
    obtain ⟨parts, hparts, hn⟩ := List.mem_flatMap.1 (names_choose _ hn)
    exact List.mem_flatMap.2 ⟨parts, List.mem_reverse.1 hparts, hn⟩
  induction h with
  | stop => exact ⟨List.Subset.refl _, fun n hn => Or.inl (hchoose _ n hn)⟩
  | close => exact ⟨List.Subset.refl _, fun n hn => Or.inl (hchoose _ n hn)⟩
  | bar _ _ ih => exact ih
  | flags hskip hopening _ ih =>
    obtain ⟨-, -, hnames, -⟩ := readOpening?_cases hopening
    rw [parts_cons_none] at ih
    simp only [hnames, Opening.names, List.nil_append] at ih
    exact ih
  | @group _ _ s _ opening inner _ _ _ _ _ _ _ _ hopening hinside _ _ _ ihbody ih =>
    obtain ⟨-, -, -, hnew⟩ := readOpening?_cases hopening
    obtain ⟨hgroup, hinner⟩ := names_of_readOpening? hopening
    obtain ⟨hmiddle, hbody⟩ := ihbody
    obtain ⟨hafter, hrest⟩ := ih
    refine ⟨List.Subset.trans (List.Subset.trans hinner hmiddle) hafter, fun n hn => ?_⟩
    rw [parts_cons_some, List.flatMap_cons, List.flatMap_append, names_of_inside? hinside] at hrest
    rcases hrest n hn with hseen | ⟨hn, hnot⟩
    · simp only [List.mem_append] at hseen
      rcases hseen with (hitems | hopen | hin) | hbranches
      · exact Or.inl (List.mem_append_left _ hitems)
      · -- the name of the group itself
        exact Or.inr ⟨hafter (hmiddle (hgroup hopen)), hnew n hopen⟩
      · rcases hbody n hin with hnone | ⟨hn, hnot⟩
        · nomatch hnone
        · exact Or.inr ⟨hafter hn, fun hs => hnot (hinner hs)⟩
      · exact Or.inl (List.mem_append_right _ hbranches)
    · exact Or.inr ⟨hn, fun hs => hnot (hmiddle (hinner hs))⟩
  | bracket _ _ _ ih =>
    rw [parts_cons_some] at ih
    simpa [Regex.names] using ih
  | rounds _ _ _ _ ih =>
    -- copies of the last item have the names it has
    refine ⟨ih.1, fun n hn => ?_⟩
    rw [parts_cons_some, List.flatMap_cons, List.flatMap_append]
    rcases ih.2 n hn with hseen | hnew
    · rw [parts_cons_some, List.flatMap_cons, List.flatMap_append, List.mem_append,
        List.mem_append] at hseen
      rcases hseen with (hitems | hlast) | hbranches
      · exact Or.inl (List.mem_append_left _ (List.mem_append_left _ hitems))
      · have hin := names_repeated _ _ hlast
        exact Or.inl (List.mem_append_left _ (List.mem_append_right _ hin))
      · exact Or.inl (List.mem_append_right _ hbranches)
    · exact Or.inr hnew
  | item _ _ _ hitem _ ih =>
    rw [parts_cons_some] at ih
    simpa [readItem?_names hitem] using ih

/-- Branches and items with distinct names are read on into parts with distinct names. -/
theorem distinct (h : Reads branches items s parts after)
    (hbranches : DistinctBranches s.names (items.parts :: branches)) : ∀ r ∈ parts, r.Distinct := by
  induction h with
  | stop => exact distinct_choose hbranches.reverse
  | close => exact distinct_choose hbranches.reverse
  | bar _ _ ih => exact ih hbranches.cons_nil
  | flags _ hopening _ ih =>
    obtain ⟨-, -, hnames, -⟩ := readOpening?_cases hopening
    rw [parts_cons_none] at ih
    refine ih ?_
    rw [hnames]
    exact hbranches
  | @group _ _ s _ opening inner _ wrap body middle _ _ _ _ hopening hinside hbody _ _ ihbody ih =>
    obtain ⟨-, -, -, hnew⟩ := readOpening?_cases hopening
    obtain ⟨hgroup, hold⟩ := names_of_readOpening? hopening
    obtain ⟨hmiddle, hbodyNames⟩ := hbody.names
    -- the name of the group is new, and the names of the body are newer still
    have hlater : ∀ n ∈ body.flatMap Regex.names, n ∈ middle.names ∧ n ∉ inner.names := by
      intro n hn
      rcases hbodyNames n hn with hnone | hlater
      · nomatch hnone
      · exact hlater
    have hwrap : ∀ r ∈ wrap body, r.Distinct :=
      distinct_of_inside? hinside (ihbody (.nothing inner.names)) fun n hn hin =>
        (hlater n hin).2 (hgroup hn)
    have hfresh : ∀ n ∈ (wrap body).flatMap Regex.names, n ∈ middle.names ∧ n ∉ s.names := by
      intro n hn
      rw [names_of_inside? hinside, List.mem_append] at hn
      rcases hn with hn | hn
      · exact ⟨hmiddle (hgroup hn), hnew n hn⟩
      · exact ⟨(hlater n hn).1, fun hin => (hlater n hn).2 (hold hin)⟩
    rw [parts_cons_some] at ih
    exact ih (hbranches.append (List.Subset.trans hold hmiddle) hwrap hfresh)
  | bracket _ _ _ ih =>
    rw [parts_cons_some] at ih
    exact ih (hbranches.append (List.Subset.refl _) (List.forall_mem_singleton.2 trivial) nofun)
  | @rounds _ items _ _ _ rounds _ last _ _ _ _ _ _ ih =>
    rw [parts_cons_some] at ih hbranches
    obtain ⟨hitems, hlast⟩ := List.forall_mem_append.1 (List.forall_mem_cons.1 hbranches.parts).1
    refine ih (hbranches.replace
      (List.forall_mem_append.2 ⟨hitems, distinct_repeated hlast rounds⟩) ?_)
    rw [List.flatMap_append, List.flatMap_append]
    exact List.append_subset.2 ⟨List.subset_append_left _ _,
      List.Subset.trans (names_repeated last rounds) (List.subset_append_right _ _)⟩
  | item _ _ _ hitem _ ih =>
    rw [parts_cons_some] at ih
    refine ih (hbranches.append (List.Subset.refl _) (List.forall_mem_singleton.2 ?_) ?_)
    · exact distinct_of_names_eq_nil (readItem?_names hitem)
    · rw [List.flatMap_singleton, readItem?_names hitem]
      nofun

/-- Another reading of the same text with more behind it reads the same. -/
theorem agree (h : Reads branches items s parts after) {fuel : Nat} {s' after' : Reading}
    {parts' : List Regex} (h' : readBranches? fuel branches items s' = some (parts', after'))
    {more : List Char} (hflags : s'.flags = s.flags) (hrest : Follows more s.rest s'.rest)
    (hmore : after.rest = [] → more = [')']) :
    parts' = parts ∧ Follows more after.rest after'.rest := by
  induction h generalizing fuel s' parts' after' with
  | @stop branches items s hskip =>
    obtain ⟨fuel, rfl⟩ := exists_fuel h'
    -- only the parenthesis can follow, and it ends the reading unless a comment hides it
    have hparen : more = [')'] := hmore rfl
    have hskip' : Follows more (skip s'.flags.extended s.rest) (skip s'.flags.extended s'.rest) :=
      skip_follows hrest fun _ => hparen
    rw [hflags, hskip, hparen] at hskip'
    rcases hskip' with hclose | ⟨-, hstop⟩
    · rw [List.nil_append, ← hflags] at hclose
      rw [readBranches?_close hclose] at h'
      obtain ⟨rfl, rfl⟩ := Prod.mk.inj (Option.some.inj h')
      exact ⟨rfl, Or.inl (by rw [hparen]; rfl)⟩
    · rw [← hflags] at hstop
      rw [readBranches?_stop hstop] at h'
      obtain ⟨rfl, rfl⟩ := Prod.mk.inj (Option.some.inj h')
      exact ⟨rfl, Or.inr ⟨rfl, rfl⟩⟩
  | close hskip =>
    obtain ⟨fuel, rfl⟩ := exists_fuel h'
    rw [readBranches?_close (skip_reading_eq_cons hskip hflags hrest)] at h'
    obtain ⟨rfl, rfl⟩ := Prod.mk.inj (Option.some.inj h')
    exact ⟨rfl, Or.inl rfl⟩
  | bar hskip _ ih =>
    obtain ⟨fuel, rfl⟩ := exists_fuel h'
    rw [readBranches?_bar (skip_reading_eq_cons hskip hflags hrest)] at h'
    exact ih h' hflags (Or.inl rfl) hmore
  | flags hskip hopening htail ih =>
    obtain ⟨fuel, rfl⟩ := exists_fuel h'
    have hskip' := skip_reading_eq_cons hskip hflags hrest
    obtain ⟨opening', inner', hopening'⟩ := exists_readOpening? hskip' h'
    obtain ⟨rfl, hinner, hfollows⟩ := readOpening?_agree hopening hopening' hflags rfl
      fun hnil => hmore (htail.rest_eq_nil hnil)
    rw [readBranches?_flags hskip' hopening'] at h'
    exact ih h' rfl hfollows hmore
  | group hskip hopening hinside hbody hclosed htail ihbody ih =>
    obtain ⟨fuel, rfl⟩ := exists_fuel h'
    have hskip' := skip_reading_eq_cons hskip hflags hrest
    -- the body ends in front of its parenthesis, so nothing in it comes to the end of the text
    have hmiddle := eq_cons_of_closed? hclosed
    have hsome : ∀ {rest : List Char}, ')' :: rest ≠ [] := List.cons_ne_nil _ _
    obtain ⟨opening', inner', hopening'⟩ := exists_readOpening? hskip' h'
    obtain ⟨rfl, hinner, hfollows⟩ := readOpening?_agree hopening hopening' hflags rfl
      fun hnil => absurd (hmiddle.symm.trans (hbody.rest_eq_nil hnil)) hsome
    rw [← hinner] at hinside
    rw [readBranches?_group hskip' hopening' hinside] at h'
    obtain ⟨⟨body', middle'⟩, hbody', h'⟩ := Option.bind_eq_some_iff.1 h'
    obtain ⟨rest', hclosed', h'⟩ := Option.bind_eq_some_iff.1 h'
    obtain ⟨rfl, hmiddleRest⟩ := ihbody hbody' rfl hfollows fun hnil =>
      absurd (hmiddle.symm.trans hnil) hsome
    rw [hmiddle, eq_cons_of_closed? hclosed'] at hmiddleRest
    obtain ⟨-, rfl⟩ := List.cons.inj (eq_append_of_follows hmiddleRest hsome)
    exact ih h' hflags (Or.inl rfl) hmore
  | bracket hskip hclass htail ih =>
    obtain ⟨fuel, rfl⟩ := exists_fuel h'
    obtain ⟨rest', hclass', hfollows⟩ := (local_readClass? _).append hclass
      fun hnil => hmore (htail.rest_eq_nil hnil)
    rw [readBranches?_class (skip_reading_eq_cons hskip hflags hrest), hflags, hclass'] at h'
    exact ih h' rfl hfollows hmore
  | rounds hskip hplain hrounds htail ih =>
    obtain ⟨fuel, rfl⟩ := exists_fuel h'
    have hjoin := congrArg Option.join hrounds
    obtain ⟨rest', hjoin', hfollows⟩ := (local_readRounds? _).append hjoin
      fun hnil => hmore (htail.rest_eq_nil hnil)
    have hrounds' := Option.join_eq_some_iff.1 hjoin'
    rw [List.cons_append, ← hflags] at hrounds'
    rw [readBranches?_plain (skip_reading_eq_cons hskip hflags hrest) hplain, hrounds'] at h'
    exact ih h' hflags hfollows hmore
  | item hskip hplain hrounds hitem htail ih =>
    obtain ⟨fuel, rfl⟩ := exists_fuel h'
    obtain ⟨rest', hitem', hfollows⟩ := (local_readItem? _).append hitem
      fun hnil => hmore (htail.rest_eq_nil hnil)
    rw [List.cons_append] at hitem'
    rw [readBranches?_plain (skip_reading_eq_cons hskip hflags hrest) hplain, hflags,
      readRounds?_cons_none hrounds, hitem'] at h'
    exact ih h' rfl hfollows hmore

end Reads

/-! ## Patterns -/

/-- A pattern is valid if the reader comes to its end. -/
theorem reads_of_ofText? {pattern : List Char} {r : Regex}
    (h : ofText? pattern = some r) :
    ∃ parts after, readBranches? (pattern.length + 1) [] [] ⟨.initial, [], pattern⟩
        = some (parts, after) ∧ after.rest = [] ∧ r = seqs parts := by
  obtain ⟨⟨parts, after⟩, hread, h⟩ := Option.bind_eq_some_iff.1 h
  simp only at h
  split at h
  · next hrest => exact ⟨parts, after, hread, List.isEmpty_iff.1 hrest, (Option.some.inj h).symm⟩
  · nomatch h

/-- Names in a valid pattern are distinct. -/
theorem distinct_of_ofText? {pattern : List Char} {r : Regex} (h : ofText? pattern = some r) :
    r.Distinct := by
  obtain ⟨parts, after, hread, -, rfl⟩ := reads_of_ofText? h
  exact distinct_seqs ((reads_of_readBranches? hread).distinct (.nothing []))

end Descent.Regex.Text
