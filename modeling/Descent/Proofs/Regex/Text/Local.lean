import Descent.Regex.Text.Flags

/-!
# Reading the front of a text

A reader takes what it reads from the front of a text and gives back the rest. What stands behind
the rest does not matter to it: with more text there it reads the same and gives back the rest with
that text behind it (`Text.Local`). The one exception is a rest of nothing. At the end of a text
some readers look for more and would read on, so only a closing parenthesis, which none of them can
use, may follow; and if blanks have been skipped up to the end, a comment may have hidden it.
-/

namespace Descent.Regex.Text

/-- A reader gives what it has read and the rest of the text. -/
abbrev Reader (α : Type) := List Char → Option (α × List Char)

/-- Whether a rest goes on with more text behind it. At the end of a text that may be hidden. -/
abbrev Follows (more rest rest' : List Char) : Prop := rest' = rest ++ more ∨ rest = [] ∧ rest' = []

theorem eq_append_of_follows {more rest rest' : List Char} (h : Follows more rest rest')
    (hne : rest' ≠ []) : rest' = rest ++ more := by
  rcases h with heq | ⟨-, hnil⟩
  · exact heq
  · exact absurd hnil hne

/-- Whether a reader reads the same in front of more text. -/
structure Local {α : Type} (read : Reader α) : Prop where
  suffix : ∀ {text value rest}, read text = some (value, rest) → rest <:+ text
  append : ∀ {text value rest more}, read text = some (value, rest) →
    (rest = [] → more = [')']) →
      ∃ rest', read (text ++ more) = some (value, rest') ∧ Follows more rest rest'

namespace Local

variable {α β : Type} {read : Reader α} {next : α → Reader β}

theorem append_of_ne (h : Local read) {text rest : List Char} {value : α}
    (hread : read text = some (value, rest)) (hne : rest ≠ []) (more : List Char) :
    read (text ++ more) = some (value, rest ++ more) := by
  obtain ⟨rest', hread', hrest⟩ := h.append hread fun hnil => absurd hnil hne
  rcases hrest with rfl | ⟨hnil, -⟩
  · exact hread'
  · exact absurd hnil hne

/-- Readers that give two things, put as readers of one. -/
theorem append_pair {read : List Char → Option (α × β × List Char)}
    (h : Local fun text => (read text).map fun found => ((found.1, found.2.1), found.2.2))
    {text rest : List Char} {a : α} {b : β} (hread : read text = some (a, b, rest)) :
    rest <:+ text ∧ (rest ≠ [] → ∀ more, read (text ++ more) = some (a, b, rest ++ more)) := by
  have hpair : ((read text).map fun found => ((found.1, found.2.1), found.2.2))
      = some ((a, b), rest) := by rw [hread]; rfl
  refine ⟨h.suffix hpair, fun hne more => ?_⟩
  obtain ⟨⟨a', b', rest'⟩, hread', heq⟩ := Option.map_eq_some_iff.1 (h.append_of_ne hpair hne more)
  obtain ⟨hvalue, rfl⟩ := Prod.mk.inj heq
  obtain ⟨rfl, rfl⟩ := Prod.mk.inj hvalue
  exact hread'

/-- A reader that never looks past what it takes. -/
theorem of_append (h : ∀ {text value rest}, read text = some (value, rest) →
    rest <:+ text ∧ ∀ more, read (text ++ more) = some (value, rest ++ more)) : Local read := by
  constructor
  · intro text value rest hread
    exact (h hread).1
  · intro text value rest more hread hmore
    exact ⟨rest ++ more, (h hread).2 more, Or.inl rfl⟩

theorem of_eq {other : Reader α} (h : Local read) (heq : ∀ text, other text = read text) :
    Local other := by
  rwa [funext heq]

/-- Giving up. -/
theorem fail : Local fun _ : List Char => (none : Option (α × List Char)) :=
  of_append nofun

/-- Taking nothing, and perhaps giving up. -/
theorem give (value? : Option α) : Local fun text => value?.map fun value => (value, text) := by
  refine of_append ?_
  intro text value rest h
  obtain ⟨_, rfl, heq⟩ := Option.map_eq_some_iff.1 h
  obtain ⟨rfl, rfl⟩ := Prod.mk.inj heq
  exact ⟨List.suffix_refl text, fun more => rfl⟩

theorem bind (h : Local read) (hnext : ∀ a, Local (next a)) :
    Local fun text => (read text).bind fun found => next found.1 found.2 := by
  constructor
  · intro text value rest hread
    obtain ⟨⟨a, middle⟩, hfirst, hsecond⟩ := Option.bind_eq_some_iff.1 hread
    exact ((hnext a).suffix hsecond).trans (h.suffix hfirst)
  · intro text value rest more hread hmore
    obtain ⟨⟨a, middle⟩, hfirst, hsecond⟩ := Option.bind_eq_some_iff.1 hread
    have hsuffix : rest <:+ middle := (hnext a).suffix hsecond
    have hend : middle = [] → rest = [] := by
      rintro rfl
      exact List.suffix_nil.1 hsuffix
    obtain ⟨middle', hfirst', hmiddle⟩ := h.append hfirst fun hnil => hmore (hend hnil)
    simp only [hfirst', Option.bind_some]
    rcases hmiddle with rfl | ⟨hnil, rfl⟩
    · exact (hnext a).append hsecond hmore
    · -- both readings have come to an end
      rw [hnil] at hsecond
      exact ⟨rest, hsecond, Or.inr ⟨hend hnil, hend hnil⟩⟩

/-- What is read next needs some text, so the first reader has to be local only in front of
something. -/
theorem behind (hsuffix : ∀ {text value rest}, read text = some (value, rest) → rest <:+ text)
    (happend : ∀ {text value rest}, read text = some (value, rest) → rest ≠ [] →
      ∀ more, read (text ++ more) = some (value, rest ++ more))
    (hnext : ∀ a, Local (next a)) (hnil : ∀ a, next a [] = none) :
    Local fun text => (read text).bind fun found => next found.1 found.2 := by
  constructor
  · intro text value rest hread
    obtain ⟨⟨a, middle⟩, hfirst, hsecond⟩ := Option.bind_eq_some_iff.1 hread
    exact ((hnext a).suffix hsecond).trans (hsuffix hfirst)
  · intro text value rest more hread hmore
    obtain ⟨⟨a, middle⟩, hfirst, hsecond⟩ := Option.bind_eq_some_iff.1 hread
    have hne : middle ≠ [] := by
      rintro rfl
      exact nomatch (hnil a).symm.trans hsecond
    rw [happend hfirst hne more, Option.bind_some]
    exact (hnext a).append hsecond hmore

theorem mapSome (h : Local read) (f : α → Option β) :
    Local fun text => (read text).bind fun found => (f found.1).map fun b => (b, found.2) :=
  h.bind fun a => give (f a)

theorem map (h : Local read) (f : α → β) :
    Local fun text => (read text).map fun found => (f found.1, found.2) :=
  (h.mapSome fun a => some (f a)).of_eq fun text => by cases read text <;> rfl

/-- Reading behind a character. -/
theorem uncons {next : Char → Reader α} (h : ∀ c, Local (next c)) :
    Local fun
      | [] => none
      | c :: rest => next c rest := by
  constructor
  · intro text value rest hread
    cases text with
    | nil => nomatch hread
    | cons c text => exact ((h c).suffix hread).trans (List.suffix_cons c text)
  · intro text value rest more hread hmore
    cases text with
    | nil => nomatch hread
    | cons c text => exact (h c).append hread hmore

/-- Reading in one way behind a given character, and in another way elsewhere. -/
theorem ifHead {a b : Reader α} {c : Char} (hc : c ≠ ')') (ha : Local a) (hb : Local b) :
    Local fun text => if text.head? = some c then a text.tail else b text := by
  constructor
  · intro text value rest hread
    split at hread
    · exact (ha.suffix hread).trans (List.tail_suffix text)
    · exact hb.suffix hread
  · intro text value rest more hread hmore
    split at hread
    · next hhead =>
      obtain ⟨behind, rfl⟩ := List.head?_eq_some_iff.1 hhead
      rw [List.cons_append, List.head?_cons, if_pos rfl]
      exact ha.append hread hmore
    · next hhead =>
      have hhead' : (text ++ more).head? ≠ some c := by
        cases text with
        | cons d behind => exact hhead
        | nil =>
          -- only the parenthesis can be first now
          rw [hmore (List.suffix_nil.1 (hb.suffix hread))]
          exact fun heq => hc (Option.some.inj heq).symm
      rw [if_neg hhead']
      exact hb.append hread hmore

/-- A reader that is given by whether the text begins with a given character. -/
theorem byHead {a b : Reader α} {c : Char} (hc : c ≠ ')') (ha : Local a) (hb : Local b)
    (hthen : ∀ rest, read (c :: rest) = a rest)
    (helse : ∀ {text}, text.head? ≠ some c → read text = b text) : Local read := by
  refine (ifHead hc ha hb).of_eq fun text => ?_
  split
  · next hhead =>
    obtain ⟨behind, rfl⟩ := List.head?_eq_some_iff.1 hhead
    exact hthen behind
  · next hhead => exact helse hhead

end Local

/-! ## Blanks -/

/-- A character is dropped, or everything stays from it on. -/
theorem dropBlanks_cons (inComment : Bool) (c : Char) :
    (∃ inside, ∀ rest, dropBlanks inComment (c :: rest) = dropBlanks inside rest) ∨
      ∀ rest, dropBlanks inComment (c :: rest) = c :: rest := by
  by_cases hin : inComment = true
  · exact Or.inl ⟨c != '\n', fun rest => by rw [dropBlanks, if_pos hin]⟩
  · by_cases hblank : isBlank c = true
    · exact Or.inl ⟨false, fun rest => by rw [dropBlanks, if_neg hin, if_pos hblank]⟩
    · by_cases hsign : c = '#'
      · exact Or.inl ⟨true, fun rest => by
          rw [dropBlanks, if_neg hin, if_neg hblank, if_pos hsign]⟩
      · exact Or.inr fun rest => by rw [dropBlanks, if_neg hin, if_neg hblank, if_neg hsign]

theorem dropBlanks_suffix (inComment : Bool) (text : List Char) :
    dropBlanks inComment text <:+ text := by
  induction text generalizing inComment with
  | nil => exact List.suffix_refl []
  | cons c rest ih =>
    rcases dropBlanks_cons inComment c with ⟨inside, hdrop⟩ | hstay
    · rw [hdrop]
      exact (ih inside).trans (List.suffix_cons c rest)
    · exact (hstay rest).symm ▸ List.suffix_refl (c :: rest)

/-- Blanks that end in front of something meaningful end there in front of more text too. -/
theorem dropBlanks_append (inComment : Bool) {text : List Char}
    (h : dropBlanks inComment text ≠ []) (more : List Char) :
    dropBlanks inComment (text ++ more) = dropBlanks inComment text ++ more := by
  induction text generalizing inComment with
  | nil => exact absurd rfl h
  | cons c rest ih =>
    rw [List.cons_append]
    rcases dropBlanks_cons inComment c with ⟨inside, hdrop⟩ | hstay
    · rw [hdrop] at h
      rw [hdrop, hdrop]
      exact ih inside h
    · rw [hstay, hstay, List.cons_append]

/-- A closing parenthesis means something, unless a comment hides it. -/
theorem dropBlanks_append_paren (inComment : Bool) {text : List Char}
    (h : dropBlanks inComment text = []) :
    dropBlanks inComment (text ++ [')']) = [')'] ∨ dropBlanks inComment (text ++ [')']) = [] := by
  induction text generalizing inComment with
  | nil =>
    cases inComment with
    | true => exact Or.inr rfl
    | false => exact Or.inl (by decide)
  | cons c rest ih =>
    rw [List.cons_append]
    rcases dropBlanks_cons inComment c with ⟨inside, hdrop⟩ | hstay
    · rw [hdrop] at h
      rw [hdrop]
      exact ih inside h
    · rw [hstay] at h
      nomatch h

theorem skip_suffix (extended : Bool) (text : List Char) : skip extended text <:+ text := by
  cases extended with
  | false => exact List.suffix_refl text
  | true => exact dropBlanks_suffix false text

theorem suffix_of_skip {extended : Bool} {text behind : List Char} {c : Char}
    (h : skip extended text = c :: behind) : c :: behind <:+ text := by
  rw [← h]
  exact skip_suffix extended text

theorem skip_append {extended : Bool} {text : List Char} (h : skip extended text ≠ [])
    (more : List Char) : skip extended (text ++ more) = skip extended text ++ more := by
  cases extended with
  | false => rfl
  | true => exact dropBlanks_append false h more

theorem local_skip (extended : Bool) : Local fun text => some ((), skip extended text) := by
  constructor
  · intro text value rest h
    obtain ⟨-, rfl⟩ := Prod.mk.inj (Option.some.inj h)
    exact skip_suffix extended text
  · intro text value rest more h hmore
    obtain ⟨-, rfl⟩ := Prod.mk.inj (Option.some.inj h)
    refine ⟨skip extended (text ++ more), rfl, ?_⟩
    by_cases hnil : skip extended text = []
    · cases extended with
      | false => exact Or.inl rfl
      | true =>
        rw [hmore hnil, hnil]
        rcases dropBlanks_append_paren false hnil with hparen | hhidden
        · exact Or.inl hparen
        · exact Or.inr ⟨rfl, hhidden⟩
    · exact Or.inl (skip_append hnil more)

theorem skip_follows {extended : Bool} {text text' more : List Char}
    (hfollows : Follows more text text') (hmore : skip extended text = [] → more = [')']) :
    Follows more (skip extended text) (skip extended text') := by
  rcases hfollows with rfl | ⟨rfl, rfl⟩
  · have hself : (fun text => some ((), skip extended text)) text = some ((), skip extended text) :=
      rfl
    obtain ⟨rest', hread, hrest⟩ := (local_skip extended).append hself hmore
    obtain ⟨-, rfl⟩ := Prod.mk.inj (Option.some.inj hread)
    exact hrest
  · have hnil : skip extended [] = [] := List.suffix_nil.1 (skip_suffix extended [])
    exact Or.inr ⟨hnil, hnil⟩

theorem skip_eq_cons {extended : Bool} {text text' more behind : List Char} {c : Char}
    (h : skip extended text = c :: behind) (hfollows : Follows more text text') :
    skip extended text' = c :: (behind ++ more) := by
  have hne : skip extended text ≠ [] := by
    rw [h]
    exact List.cons_ne_nil c behind
  rcases hfollows with rfl | ⟨rfl, -⟩
  · rw [skip_append hne, h, List.cons_append]
  · exact absurd (List.suffix_nil.1 (skip_suffix extended [])) hne

/-- Skipping blanks first. -/
theorem Local.skipping {α : Type} {read : Reader α} (h : Local read) (extended : Bool) :
    Local fun text => read (skip extended text) :=
  (local_skip extended).bind fun _ => h

/-- Skipping blanks and reading according to the character behind them. -/
theorem Local.branch {α : Type} {read a b : Reader α} {c : Char} (extended : Bool) (hc : c ≠ ')')
    (ha : Local a) (hb : Local b)
    (hthen : ∀ {text rest}, skip extended text = c :: rest → read text = a rest)
    (helse : ∀ {text}, (skip extended text).head? ≠ some c →
      read text = b (skip extended text)) : Local read := by
  refine ((Local.ifHead hc ha hb).skipping extended).of_eq fun text => ?_
  split
  · next hhead =>
    obtain ⟨behind, hskip⟩ := List.head?_eq_some_iff.1 hhead
    rw [hthen hskip, hskip]
    rfl
  · next hhead => exact helse hhead

/-! ## Runs of characters -/

theorem takeSkipping_suffix (extended : Bool) (test : Char → Bool) (fuel : Nat)
    (text : List Char) : (takeSkipping extended test fuel text).2 <:+ text := by
  induction fuel generalizing text with
  | zero => exact List.suffix_refl text
  | succ fuel ih =>
    cases text with
    | nil => exact List.suffix_refl []
    | cons c rest =>
      unfold takeSkipping
      split
      · exact ((ih _).trans (skip_suffix extended rest)).trans (List.suffix_cons c rest)
      · exact List.suffix_refl _

/-- A run leaves nothing of nothing. -/
theorem ne_nil_of_takeSkipping {extended : Bool} {test : Char → Bool} {fuel : Nat}
    {text : List Char} (h : (takeSkipping extended test fuel text).2 ≠ []) : text ≠ [] := by
  rintro rfl
  exact h (List.suffix_nil.1 (takeSkipping_suffix extended test fuel []))

/-- A run that ends in front of something ends there in front of more text too. -/
theorem takeSkipping_append {extended : Bool} {test : Char → Bool} {fuel fuel' : Nat}
    {text more : List Char} (hfuel : text.length ≤ fuel) (hfuel' : (text ++ more).length ≤ fuel')
    (hne : (takeSkipping extended test fuel text).2 ≠ []) :
    takeSkipping extended test fuel' (text ++ more) =
      ((takeSkipping extended test fuel text).1,
        (takeSkipping extended test fuel text).2 ++ more) := by
  induction fuel generalizing fuel' text with
  | zero =>
    have htext : text = [] := List.length_eq_zero_iff.1 (Nat.le_zero.1 hfuel)
    exact absurd htext hne
  | succ fuel ih =>
    cases text with
    | nil => exact absurd rfl hne
    | cons c rest =>
      cases fuel' with
      | zero => nomatch hfuel'
      | succ fuel' =>
        rw [List.cons_append]
        unfold takeSkipping at hne ⊢
        split
        · next htest =>
          rw [if_pos htest] at hne
          have hleft : skip extended rest ≠ [] := ne_nil_of_takeSkipping hne
          have hshort : (skip extended rest).length ≤ rest.length :=
            (skip_suffix extended rest).length_le
          simp only [List.length_cons, List.length_append] at hfuel hfuel'
          rw [skip_append hleft]
          rw [ih (by omega) (by rw [List.length_append]; omega) hne]
        · rfl

/-- A run and the character that ends it. -/
theorem local_run (extended : Bool) (test last : Char → Bool) :
    Local fun text =>
      match takeSkipping extended test text.length text with
      | (taken, c :: left) => if last c then some (taken, left) else none
      | (_, []) => none := by
  refine .of_append ?_
  intro text value rest h
  have hsuffix := takeSkipping_suffix extended test text.length text
  split at h
  · next taken c left heq =>
    have hne : (takeSkipping extended test text.length text).2 ≠ [] := by
      rw [heq]
      exact List.cons_ne_nil c left
    rw [heq] at hsuffix
    split at h
    · next hlast =>
      obtain ⟨rfl, rfl⟩ := Prod.mk.inj (Option.some.inj h)
      refine ⟨(List.suffix_cons c left).trans hsuffix, fun more => ?_⟩
      rw [takeSkipping_append (Nat.le_refl _) (Nat.le_refl _) hne, heq]
      exact if_pos hlast
    · nomatch h
  · nomatch h

/-! ## Numbers -/

theorem dropWhile_append_of_ne {test : Char → Bool} {text : List Char}
    (h : text.dropWhile test ≠ []) (more : List Char) :
    (text ++ more).dropWhile test = text.dropWhile test ++ more := by
  rw [List.dropWhile_append, if_neg]
  simpa using h

/-- A number in front of something is the same in front of more text. -/
theorem readCount?_append {extended : Bool} {text rest : List Char} {count : Nat}
    (h : readCount? extended text = some (count, rest)) (hne : rest ≠ []) (more : List Char) :
    readCount? extended (text ++ more) = some (count, rest ++ more) := by
  unfold readCount? at h ⊢
  simp only at h ⊢
  split at h
  · nomatch h
  · next hvalid =>
    obtain ⟨rfl, rfl⟩ := Prod.mk.inj (Option.some.inj h)
    -- from the end on: there is text behind the blanks, so behind the digits, so in front of them
    have hdigits := ne_nil_of_takeSkipping hne
    have hstart := ne_nil_of_takeSkipping hdigits
    rw [dropWhile_append_of_ne hstart, takeSkipping_append (Nat.le_refl _) (Nat.le_refl _) hdigits]
    simp only
    rw [if_neg hvalid, takeSkipping_append (Nat.le_refl _) (Nat.le_refl _) hne]

theorem readCount?_suffix {extended : Bool} {text rest : List Char} {count : Nat}
    (h : readCount? extended text = some (count, rest)) : rest <:+ text := by
  unfold readCount? at h
  simp only at h
  split at h
  · nomatch h
  · obtain ⟨rfl, rfl⟩ := Prod.mk.inj (Option.some.inj h)
    exact ((takeSkipping_suffix ..).trans (takeSkipping_suffix ..)).trans
      (List.dropWhile_suffix _)

/-- Reading a number, and then something that needs some text. -/
theorem Local.count {α : Type} {next : Nat → Reader α} (extended : Bool)
    (hnext : ∀ n, Local (next n)) (hnil : ∀ n, next n [] = none) :
    Local fun text => (readCount? extended text).bind fun found => next found.1 found.2 :=
  .behind readCount?_suffix readCount?_append hnext hnil

end Descent.Regex.Text
