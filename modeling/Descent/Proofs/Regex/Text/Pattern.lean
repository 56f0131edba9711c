import Descent.Proofs.Regex.Text.Class
import Descent.Regex.Text.Pattern

/-!
# Patterns in front of more text

The openings of groups, the atoms and the repetition signs are read the same in front of more text
(`Text.local_opening?`, `Text.local_readItem?`, `Text.local_readRounds?`). An opening is the only
one that looks at more than the text: it takes a name that no group before it may have taken
(`Text.readOpening?_cases`).
-/

namespace Descent.Regex.Text

/-! ## Openings of groups -/

theorem local_readName? : Local readName? := by
  refine .of_append ?_
  intro text name rest h
  rcases span_cases '>' text with ⟨front, behind, rfl, hspan⟩ | hspan
  · have hnil := hspan []
    rw [List.append_nil, List.append_nil] at hnil
    unfold readName? at h ⊢
    rw [hnil] at h
    cases front with
    | nil => nomatch h
    | cons c front =>
      simp only at h
      split at h
      · next hvalid =>
        obtain ⟨rfl, rfl⟩ := Prod.mk.inj (Option.some.inj h)
        refine ⟨⟨c :: front ++ ['>'], by simp⟩, fun more => ?_⟩
        rw [hspan]
        exact if_pos hvalid
      · nomatch h
  · -- a name that is not closed is none
    have hnil := hspan []
    rw [List.append_nil] at hnil
    unfold readName? at h
    rw [hnil] at h
    cases text with
    | nil => nomatch h
    | cons c text => nomatch h

theorem readFlags?_append {seen : List Char} {flags flags' : Flags} {any : Bool} {last : Char}
    {text rest : List Char} (h : readFlags? seen flags text = some (flags', any, last, rest)) :
    rest <:+ text ∧ ∀ more,
      readFlags? seen flags (text ++ more) = some (flags', any, last, rest ++ more) := by
  induction text generalizing seen flags with
  | nil => nomatch h
  | cons c text ih =>
    have hbehind : text <:+ c :: text := List.suffix_cons c text
    rw [readFlags?] at h
    split at h
    · next hend =>
      split at h
      · nomatch h
      · next hminus =>
        simp only [Option.some.injEq, Prod.mk.injEq] at h
        obtain ⟨rfl, rfl, rfl, rfl⟩ := h
        refine ⟨hbehind, fun more => ?_⟩
        rw [List.cons_append, readFlags?, if_pos hend, if_neg hminus]
    · next hend =>
      split at h
      · nomatch h
      · next hseen =>
        split at h
        · next hminus =>
          obtain ⟨hrest, happend⟩ := ih h
          refine ⟨hrest.trans hbehind, fun more => ?_⟩
          rw [List.cons_append, readFlags?, if_neg hend, if_neg hseen, if_pos hminus]
          exact happend more
        · next hminus =>
          obtain ⟨set, hset, h⟩ := Option.bind_eq_some_iff.1 h
          obtain ⟨hrest, happend⟩ := ih h
          refine ⟨hrest.trans hbehind, fun more => ?_⟩
          rw [List.cons_append, readFlags?, if_neg hend, if_neg hseen, if_neg hminus, hset]
          exact happend more

/-- The opening of a named group. -/
def namedOpening? : Reader Opening := fun text =>
  (readName? text).map fun found => (.capture (some found.1), found.2)

/-- A change of flags, for what follows or for a group. -/
def flagsOpening? (flags : Flags) : Reader Opening := fun text =>
  (readFlags? [] flags text).bind fun found =>
    if found.2.2.1 = ':' then some (.plain found.1, found.2.2.2)
    else if found.2.1 then some (.flags found.1, found.2.2.2)
    else none

/-- What a parenthesis and a question mark begin. -/
def questionOpening? (flags : Flags) : Reader Opening
  | '=' :: _ | '!' :: _ | '<' :: '=' :: _ | '<' :: '!' :: _ => none
  | 'P' :: '<' :: rest | '<' :: rest => namedOpening? rest
  | rest => flagsOpening? flags rest

/-- What a parenthesis begins, whatever names there have been. -/
def opening? (flags : Flags) : Reader Opening := fun text =>
  match skip flags.extended text with
  | '?' :: rest => questionOpening? flags rest
  | rest => some (.capture none, rest)

theorem local_flagsOpening? (flags : Flags) : Local (flagsOpening? flags) := by
  refine .of_append ?_
  intro text opening rest h
  obtain ⟨⟨flags', any, last, left⟩, hflags, h⟩ := Option.bind_eq_some_iff.1 h
  obtain ⟨hleft, happend⟩ := readFlags?_append hflags
  simp only at h
  split at h
  · next hlast =>
    obtain ⟨rfl, rfl⟩ := Prod.mk.inj (Option.some.inj h)
    refine ⟨hleft, fun more => ?_⟩
    rw [flagsOpening?, happend more]
    exact if_pos hlast
  · next hlast =>
    split at h
    · next hany =>
      obtain ⟨rfl, rfl⟩ := Prod.mk.inj (Option.some.inj h)
      refine ⟨hleft, fun more => ?_⟩
      rw [flagsOpening?, happend more]
      exact (if_neg hlast).trans (if_pos hany)
    · nomatch h

theorem local_namedOpening? : Local namedOpening? :=
  local_readName?.map fun name => Opening.capture (some name)

theorem local_questionOpening? (flags : Flags) : Local (questionOpening? flags) := by
  have hangle := Local.ifHead (by decide : '=' ≠ ')') .fail
    (Local.ifHead (by decide : '!' ≠ ')') .fail local_namedOpening?)
  have hp := Local.ifHead (by decide : '<' ≠ ')') local_namedOpening? .fail
  refine (Local.ifHead (by decide : '=' ≠ ')') .fail
    (Local.ifHead (by decide : '!' ≠ ')') .fail
      (Local.ifHead (by decide : '<' ≠ ')') hangle
        (Local.ifHead (by decide : 'P' ≠ ')') hp (local_flagsOpening? flags))))).of_eq ?_
  intro text
  cases text with
  | nil => rfl
  | cons c text =>
    by_cases heq : c = '='
    · subst heq
      rfl
    by_cases hbang : c = '!'
    · subst hbang
      rfl
    by_cases hopen : c = '<'
    · subst hopen
      cases text with
      | nil => rfl
      | cons d text =>
        by_cases hdeq : d = '='
        · subst hdeq
          rfl
        by_cases hdbang : d = '!'
        · subst hdbang
          rfl
        simp [questionOpening?, hdeq, hdbang]
    by_cases hletter : c = 'P'
    · subst hletter
      cases text with
      | nil => rfl
      | cons d text =>
        by_cases hdopen : d = '<'
        · subst hdopen
          rfl
        -- no flag has this letter
        have hnone : flagsOpening? flags ('P' :: d :: text) = none := rfl
        simp [questionOpening?, hdopen, hnone]
    simp [questionOpening?, heq, hbang, hopen, hletter]

theorem local_opening? (flags : Flags) : Local (opening? flags) := by
  have hplain : Local fun text => some (Opening.capture none, text) :=
    .give (some (Opening.capture none))
  refine .branch flags.extended (by decide : '?' ≠ ')') (local_questionOpening? flags) hplain ?_ ?_
  · intro text rest hskip
    unfold opening?
    rw [hskip]
    rfl
  · intro text hhead
    unfold opening?
    split
    · next hskip => exact absurd (by rw [hskip]; rfl) hhead
    · rfl

/-- Taking a name, unless it has been taken. -/
def takeName? (s : Reading) (opening : Opening) (rest : List Char) : Option (Opening × Reading) :=
  match opening with
  | .capture (some name) =>
    if s.names.contains name then none
    else some (opening, { s with names := name :: s.names, rest })
  | _ => some (opening, { s with rest })

theorem readOpening?_eq (s : Reading) :
    readOpening? s = (opening? s.flags s.rest).bind fun found => takeName? s found.1 found.2 := by
  have hnamed : ∀ text, readOpening?.named s text
      = (namedOpening? text).bind fun found => takeName? s found.1 found.2 := by
    intro text
    unfold readOpening?.named namedOpening?
    cases readName? text <;> rfl
  unfold readOpening? opening?
  generalize skip s.flags.extended s.rest = text
  split
  · rfl
  · rfl
  · rfl
  · rfl
  -- a name behind a letter and a bracket
  · next rest => exact hnamed rest
  -- a name behind a bracket alone
  · next rest hequals hbang =>
    have hquestion : questionOpening? s.flags ('<' :: rest) = namedOpening? rest := by
      rw [questionOpening?]
      · exact hequals
      · exact hbang
    rw [hnamed, ← hquestion]
    rfl
  -- flags, with a colon behind them or not
  · next rest hequals hbang hangleEquals hangleBang hname hangle =>
    have hquestion : questionOpening? s.flags rest = flagsOpening? s.flags rest := by
      rw [questionOpening?] <;> assumption
    have hflags : ∀ found : Flags × Bool × Char × List Char,
        (if found.2.2.1 = ':' then
            some (Opening.plain found.1, { s with rest := found.2.2.2 })
          else if found.2.1 then some (Opening.flags found.1, { s with rest := found.2.2.2 })
          else none) =
        (if found.2.2.1 = ':' then some (Opening.plain found.1, found.2.2.2)
          else if found.2.1 then some (Opening.flags found.1, found.2.2.2)
          else none).bind fun opened => takeName? s opened.1 opened.2 := by
      intro found
      by_cases hcolon : found.2.2.1 = ':'
      · rw [if_pos hcolon, if_pos hcolon]
        rfl
      · rw [if_neg hcolon, if_neg hcolon]
        cases found.2.1 <;> rfl
    simp only [hquestion, flagsOpening?, Option.bind_assoc, ← hflags]
    rfl
  · next hquestion =>
    split
    · next heq => exact absurd rfl (hquestion _)
    · rfl

/-- The names that an opening takes. -/
def Opening.names : Opening → List (List Char)
  | .capture name => name.toList
  | _ => []

/-- All that reading an opening does. -/
theorem readOpening?_cases {s inner : Reading} {opening : Opening}
    (h : readOpening? s = some (opening, inner)) :
    opening? s.flags s.rest = some (opening, inner.rest) ∧ inner.flags = s.flags ∧
      inner.names = opening.names ++ s.names ∧ ∀ n ∈ opening.names, n ∉ s.names := by
  rw [readOpening?_eq] at h
  obtain ⟨⟨opening', rest⟩, hopening, h⟩ := Option.bind_eq_some_iff.1 h
  unfold takeName? at h
  simp only at h
  split at h
  · next name =>
    split at h
    · nomatch h
    · next hnew =>
      obtain ⟨rfl, rfl⟩ := Prod.mk.inj (Option.some.inj h)
      refine ⟨hopening, rfl, rfl, ?_⟩
      intro n hn
      obtain rfl := List.mem_singleton.1 hn
      simpa using hnew
  · next hnone =>
    obtain ⟨rfl, rfl⟩ := Prod.mk.inj (Option.some.inj h)
    have hnames : opening'.names = [] := by
      cases opening' with
      | capture name? =>
        cases name? with
        | none => rfl
        | some name => exact absurd rfl (hnone name)
      | _ => rfl
    rw [hnames]
    exact ⟨hopening, rfl, rfl, nofun⟩

/-! ## Single items -/

/-- The expression of an atom. -/
def Atom.expr? (flags : Flags) : Atom → Option Regex
  | .char c byte => charExpr? flags c byte
  | .set chars => some (.one chars)
  | .anchor a => some (.anchor a)

theorem local_readItem? (flags : Flags) : Local (readItem? flags) := by
  have hbehind : ∀ c, Local fun rest => readItem? flags (c :: rest) := by
    intro c
    by_cases hescape : c = '\\'
    · subst hescape
      refine ((local_readEscape? flags).mapSome (Atom.expr? flags)).of_eq fun rest => ?_
      rw [readItem?]
      cases readEscape? flags rest with
      | none => rfl
      | some found => cases hatom : found.1 <;> simp [hatom, Atom.expr?]
    by_cases hdot : c = '.'
    · subst hdot
      refine (Local.give (if flags.unicode then some (Regex.one (dotClass flags)) else none)).of_eq
        fun rest => ?_
      rw [readItem?]
      cases flags.unicode <;> rfl
    by_cases hstart : c = '^'
    · subst hstart
      exact .give
        (some (Regex.anchor (if flags.multiLine then .lineStart flags.crlf else .textStart)))
    by_cases hstop : c = '$'
    · subst hstop
      exact .give (some (Regex.anchor (if flags.multiLine then .lineEnd flags.crlf else .textEnd)))
    refine (Local.give (charExpr? flags c false)).of_eq fun rest => ?_
    rw [readItem?] <;> assumption
  exact (Local.uncons hbehind).of_eq fun text => by cases text <;> rfl

/-! ## Repetitions -/

/-- A brace that closes counts. -/
def closeCounts? (counts? : Option (Nat × Option Nat)) : Reader (Nat × Option Nat)
  | '\x7d' :: rest => counts?.map fun counts => (counts, rest)
  | _ => none

/-- The second count, behind the comma. -/
def boundCounts? (extended : Bool) (least : Nat) : Reader (Nat × Option Nat)
  | '\x7d' :: rest => some ((least, none), rest)
  | text => (readCount? extended text).bind fun found =>
    closeCounts? (if least ≤ found.1 then some (least, some found.1) else none) found.2

/-- What stands behind the first count. -/
def moreCounts? (extended : Bool) (least : Nat) : Reader (Nat × Option Nat)
  | ',' :: rest => boundCounts? extended least (skip extended rest)
  | text => closeCounts? (some (least, some least)) text

theorem readCounts?_eq (extended : Bool) (text : List Char) :
    readCounts? extended text = (readCount? extended (skip extended text)).bind fun found =>
      moreCounts? extended found.1 found.2 := by
  unfold readCounts?
  cases readCount? extended (skip extended text) with
  | none => rfl
  | some found =>
    obtain ⟨least, rest⟩ := found
    simp only [Option.bind_eq_bind, Option.bind_some]
    split
    · next rest =>
      rw [moreCounts?]
      split
      · next hskip =>
        rw [hskip]
        rfl
      · next hskip =>
        rw [boundCounts?]
        · cases readCount? extended (skip extended rest) with
          | none => rfl
          | some found =>
            obtain ⟨bound, rest⟩ := found
            simp only [Option.bind_some]
            split
            · by_cases hle : least ≤ bound <;> simp [closeCounts?, hle]
            · next hclose =>
              rw [closeCounts?]
              exact hclose
        · exact hskip
    · rfl
    · next hcomma hclose =>
      rw [moreCounts?]
      · rw [closeCounts?]
        exact hclose
      · exact hcomma

theorem local_closeCounts? (counts? : Option (Nat × Option Nat)) :
    Local (closeCounts? counts?) := by
  refine .byHead (by decide : '\x7d' ≠ ')') (.give counts?) .fail (fun rest => rfl) ?_
  intro text hhead
  unfold closeCounts?
  split
  · exact absurd rfl hhead
  · rfl

theorem local_boundCounts? (extended : Bool) (least : Nat) :
    Local (boundCounts? extended least) := by
  have hcount := Local.count extended
    (fun bound => local_closeCounts? (if least ≤ bound then some (least, some bound) else none))
    fun bound => rfl
  refine .byHead (by decide : '\x7d' ≠ ')') (.give (some (least, none))) hcount (fun rest => rfl) ?_
  intro text hhead
  unfold boundCounts?
  split
  · exact absurd rfl hhead
  · rfl

theorem local_moreCounts? (extended : Bool) (least : Nat) : Local (moreCounts? extended least) := by
  refine .byHead (by decide : ',' ≠ ')') ((local_boundCounts? extended least).skipping extended)
    (local_closeCounts? (some (least, some least))) (fun rest => rfl) ?_
  intro text hhead
  unfold moreCounts?
  split
  · exact absurd rfl hhead
  · rfl

theorem local_readCounts? (extended : Bool) : Local (readCounts? extended) := by
  have hcounts := Local.count extended (local_moreCounts? extended) fun least => rfl
  exact (hcounts.skipping extended).of_eq (readCounts?_eq extended)

theorem local_lazily (flags : Flags) (counts : Nat × Option Nat) :
    Local fun text => some (readRounds?.lazily flags counts text) := by
  refine .byHead (by decide : '?' ≠ ')')
    (Local.give (some (Rounds.mk counts.1 counts.2 flags.swapGreed)))
    (Local.give (some (Rounds.mk counts.1 counts.2 !flags.swapGreed))) (fun rest => rfl) ?_
  intro text hhead
  unfold readRounds?.lazily
  split
  · exact absurd rfl hhead
  · rfl

theorem local_readRounds? (flags : Flags) : Local fun text => (readRounds? flags text).join := by
  have hbehind : ∀ c, Local fun rest => (readRounds? flags (c :: rest)).join := by
    intro c
    by_cases hoption : c = '?'
    · subst hoption
      exact local_lazily flags _
    by_cases hstar : c = '*'
    · subst hstar
      exact local_lazily flags _
    by_cases hplus : c = '+'
    · subst hplus
      exact local_lazily flags _
    by_cases hbrace : c = '\x7b'
    · subst hbrace
      refine ((local_readCounts? flags.extended).bind fun counts =>
        (local_lazily flags counts).skipping flags.extended).of_eq fun rest => ?_
      rw [readRounds?]
      cases readCounts? flags.extended rest <;> rfl
    refine Local.fail.of_eq fun rest => ?_
    rw [readRounds?] <;> simp_all
  exact (Local.uncons hbehind).of_eq fun text => by cases text <;> rfl

/-- Whether there is a repetition sign is told by the first character. -/
theorem readRounds?_cons_none {flags : Flags} {c : Char} {text : List Char}
    (h : readRounds? flags (c :: text) = none) (other : List Char) :
    readRounds? flags (c :: other) = none := by
  have hoption : c ≠ '?' := by
    rintro rfl
    nomatch h
  have hstar : c ≠ '*' := by
    rintro rfl
    nomatch h
  have hplus : c ≠ '+' := by
    rintro rfl
    nomatch h
  have hbrace : c ≠ '\x7b' := by
    rintro rfl
    nomatch h
  rw [readRounds?] <;> simp_all

end Descent.Regex.Text
