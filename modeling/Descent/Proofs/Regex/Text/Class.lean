import Mathlib.Data.List.TakeDrop
import Descent.Proofs.Regex.Text.Escape
import Descent.Regex.Text.Class

/-!
# Brackets in front of more text

A bracketed class ends with its closing bracket, so nothing behind it is ever looked at
(`Text.local_readClass?`). Inside, a reader may look far ahead: for the colon that ends the name of
an ASCII class, and for what follows a hyphen. But it finds what it looks for in front of the
closing bracket, or else it would not have got there.
-/

namespace Descent.Regex.Text

/-! ## Members -/

theorem local_readMember? (flags : Flags) : Local (readMember? flags) := by
  have hbehind : ∀ c, Local fun rest => readMember? flags (c :: rest) := by
    intro c
    by_cases hc : c = '\\'
    · subst hc
      exact local_readEscape? flags
    · refine (Local.give (some (Atom.char c false))).of_eq fun rest => ?_
      rw [readMember?]
      · rfl
      · exact hc
  exact (Local.uncons hbehind).of_eq fun text => by cases text <;> rfl

theorem mem_dropWhile_of_not {α : Type} {test : α → Bool} {a : α} {text : List α}
    (ha : a ∈ text) (hnot : test a = false) : a ∈ text.dropWhile test := by
  induction text with
  | nil => nomatch ha
  | cons c rest ih =>
    rw [List.dropWhile_cons]
    split
    · next hc =>
      rcases List.mem_cons.1 ha with rfl | ha
      · exact absurd hc (by rw [hnot]; exact Bool.false_ne_true)
      · exact ih ha
    · exact ha

theorem isBlank_bracket : isBlank ']' = false := by decide

/-- What follows a hyphen is found in front of the closing bracket. -/
theorem peekAfter_append (extended : Bool) {c : Char} {rest : List Char} (h : ']' ∈ rest)
    (more : List Char) :
    peekAfter extended (c :: rest ++ more) = peekAfter extended (c :: rest) := by
  have hhead : ∀ {text : List Char}, ']' ∈ text → (text ++ more).head? = text.head? := by
    intro text htext
    cases text with
    | nil => nomatch htext
    | cons d text => rfl
  have hdrop : ∀ {text : List Char}, ']' ∈ text →
      (text ++ more).dropWhile isBlank = text.dropWhile isBlank ++ more := fun htext =>
    dropWhile_append_of_ne (List.ne_nil_of_mem (mem_dropWhile_of_not htext isBlank_bracket)) more
  have hmem : ']' ∈ rest.dropWhile isBlank := mem_dropWhile_of_not h isBlank_bracket
  cases extended with
  | false => exact hhead h
  | true =>
    unfold peekAfter
    simp only [List.cons_append, List.tail_cons, if_true, hhead h, hdrop h]
    cases hbehind : rest.dropWhile isBlank with
    | nil => rw [hbehind] at hmem; nomatch hmem
    | cons d behind =>
      rw [hbehind] at hmem
      by_cases hd : d = '#'
      · subst hd
        have hbracket : ']' ∈ behind := by simpa using hmem
        have hmore := mem_dropWhile_of_not hbracket isBlank_bracket
        simp only [List.cons_append, hdrop hbracket]
        -- behind the sign of a comment the first character of the comment counts
        cases hlast : behind.dropWhile isBlank with
        | nil => rw [hlast] at hmore; nomatch hmore
        | cons e last => rfl
      · simp

/-- What a member becomes by what stands behind it: the beginning of a range, or a class. -/
def readRange? (flags : Flags) (first : Atom) (text : List Char) :
    Option (CharClass × List Char) :=
  match text with
  | [] => none
  | '-' :: more =>
    let next := peekAfter flags.extended text
    if next = some ']' ∨ next = some '-' then (first.class? flags).map fun c => (c, text)
    else
      (readMember? flags (skip flags.extended more)).bind fun found =>
        (first.bound? flags).bind fun low => (found.1.bound? flags).bind fun high =>
          if low ≤ high then some (.range low high, found.2) else none
  | _ => (first.class? flags).map fun c => (c, text)

theorem readClassItem?_eq (flags : Flags) (text : List Char) :
    readClassItem? flags text = (readMember? flags text).bind fun found =>
      readRange? flags found.1 (skip flags.extended found.2) := by
  rfl

theorem readRange?_suffix {flags : Flags} {first : Atom} {text rest : List Char} {chars : CharClass}
    (h : readRange? flags first text = some (chars, rest)) : rest <:+ text := by
  unfold readRange? at h
  split at h
  · nomatch h
  · next behind =>
    simp only at h
    split at h
    · obtain ⟨_, -, heq⟩ := Option.map_eq_some_iff.1 h
      obtain ⟨-, rfl⟩ := Prod.mk.inj heq
      exact List.suffix_refl _
    · obtain ⟨⟨last, left⟩, hlast, h⟩ := Option.bind_eq_some_iff.1 h
      obtain ⟨low, -, h⟩ := Option.bind_eq_some_iff.1 h
      obtain ⟨high, -, h⟩ := Option.bind_eq_some_iff.1 h
      split at h
      · obtain ⟨-, rfl⟩ := Prod.mk.inj (Option.some.inj h)
        exact (((local_readMember? flags).suffix hlast).trans (skip_suffix _ _)).trans
          (List.suffix_cons _ behind)
      · nomatch h
  · obtain ⟨_, -, heq⟩ := Option.map_eq_some_iff.1 h
    obtain ⟨-, rfl⟩ := Prod.mk.inj heq
    exact List.suffix_refl _

theorem readRange?_append {flags : Flags} {first : Atom} {text rest : List Char}
    {chars : CharClass} (h : readRange? flags first text = some (chars, rest)) (hclose : ']' ∈ rest)
    (more : List Char) : readRange? flags first (text ++ more) = some (chars, rest ++ more) := by
  have hmem : ']' ∈ text := (readRange?_suffix h).subset hclose
  cases text with
  | nil => nomatch hmem
  | cons c behind =>
    by_cases hc : c = '-'
    · subst hc
      have hbehind : ']' ∈ behind := by simpa using hmem
      have hpeek := peekAfter_append flags.extended (c := '-') hbehind more
      unfold readRange? at h ⊢
      simp only [List.cons_append] at h hpeek ⊢
      rw [hpeek]
      -- a hyphen begins no range in front of the closing bracket or of another hyphen
      split at h
      · next hnext =>
        obtain ⟨c, hclass, heq⟩ := Option.map_eq_some_iff.1 h
        obtain ⟨rfl, rfl⟩ := Prod.mk.inj heq
        rw [if_pos hnext, hclass]
        rfl
      · next hnext =>
        obtain ⟨⟨last, left⟩, hlast, h⟩ := Option.bind_eq_some_iff.1 h
        obtain ⟨low, hlow, h⟩ := Option.bind_eq_some_iff.1 h
        obtain ⟨high, hhigh, h⟩ := Option.bind_eq_some_iff.1 h
        split at h
        · next hle =>
          obtain ⟨rfl, rfl⟩ := Prod.mk.inj (Option.some.inj h)
          have hread := ((local_readMember? flags).skipping flags.extended).append_of_ne hlast
            (List.ne_nil_of_mem hclose) more
          rw [if_neg hnext, hread, Option.bind_some, hlow, Option.bind_some, hhigh,
            Option.bind_some, if_pos hle]
        · nomatch h
    · have hother : ∀ text, readRange? flags first (c :: text)
          = (first.class? flags).map fun chars => (chars, c :: text) := by
        intro text
        rw [readRange?]
        · exact nofun
        · intro rest heq
          exact hc (List.cons.inj heq).1
      rw [hother] at h
      rw [List.cons_append, hother]
      obtain ⟨_, hclass, heq⟩ := Option.map_eq_some_iff.1 h
      obtain ⟨rfl, rfl⟩ := Prod.mk.inj heq
      rw [hclass]
      rfl

theorem readClassItem?_suffix {flags : Flags} {text rest : List Char} {chars : CharClass}
    (h : readClassItem? flags text = some (chars, rest)) : rest <:+ text := by
  rw [readClassItem?_eq] at h
  obtain ⟨⟨first, behind⟩, hfirst, hrange⟩ := Option.bind_eq_some_iff.1 h
  exact ((readRange?_suffix hrange).trans (skip_suffix _ _)).trans
    ((local_readMember? flags).suffix hfirst)

/-- A member or a range with the closing bracket behind it. -/
theorem readClassItem?_append {flags : Flags} {text rest : List Char} {chars : CharClass}
    (h : readClassItem? flags text = some (chars, rest)) (hclose : ']' ∈ rest) (more : List Char) :
    readClassItem? flags (text ++ more) = some (chars, rest ++ more) := by
  rw [readClassItem?_eq] at h ⊢
  obtain ⟨⟨first, behind⟩, hfirst, hrange⟩ := Option.bind_eq_some_iff.1 h
  have hskip : skip flags.extended behind ≠ [] :=
    List.ne_nil_of_mem ((readRange?_suffix hrange).subset hclose)
  have hbehind : behind ≠ [] := by
    rintro rfl
    exact hskip (List.suffix_nil.1 (skip_suffix flags.extended []))
  rw [(local_readMember? flags).append_of_ne hfirst hbehind more, Option.bind_some,
    skip_append hskip]
  exact readRange?_append hrange hclose more

/-! ## Named classes -/

/-- A text up to a given character, whether it is there or not. -/
theorem span_cases (c : Char) (text : List Char) :
    (∃ name rest, text = name ++ c :: rest ∧
      ∀ more, (text ++ more).span (· != c) = (name, c :: (rest ++ more))) ∨
    ∀ more, (text ++ more).span (· != c)
      = (text ++ (more.span (· != c)).1, (more.span (· != c)).2) := by
  simp only [List.span_eq_takeWhile_dropWhile]
  induction text with
  | nil => exact Or.inr fun more => rfl
  | cons d text ih =>
    by_cases hd : d = c
    · subst hd
      exact Or.inl ⟨[], text, rfl, fun more => by simp⟩
    · have htest : (d != c) = true := bne_iff_ne.2 hd
      rcases ih with ⟨name, rest, rfl, hspan⟩ | hspan
      · refine Or.inl ⟨d :: name, rest, rfl, fun more => ?_⟩
        obtain ⟨htake, hdrop⟩ := Prod.mk.inj (hspan more)
        rw [List.cons_append, List.takeWhile_cons, if_pos htest, List.dropWhile_cons,
          if_pos htest, htake, hdrop]
      · refine Or.inr fun more => ?_
        obtain ⟨htake, hdrop⟩ := Prod.mk.inj (hspan more)
        rw [List.cons_append, List.takeWhile_cons, if_pos htest, List.dropWhile_cons,
          if_pos htest, htake, hdrop, List.cons_append]

/-- No named class has a bracket in its name. -/
theorem asciiNamed?_of_mem {name : List Char} (h : ']' ∈ name) :
    CharClass.asciiNamed? name = none := by
  have hnames : ∀ entry ∈ CharClass.asciiNamed?.asciiNames [('A', 'Z'), ('a', 'z')],
      ']' ∉ entry.1.toList := by decide
  have hfind : (CharClass.asciiNamed?.asciiNames [('A', 'Z'), ('a', 'z')]).find?
      (fun entry => name = entry.1.toList) = none := by
    rw [List.find?_eq_none]
    intro entry hentry heq
    exact hnames entry hentry (of_decide_eq_true heq ▸ h)
  unfold CharClass.asciiNamed?
  simp only
  rw [hfind]
  rfl

theorem named?_of_mem {text name left : List Char} (hspan : text.span (· != ':') = (name, left))
    (h : ']' ∈ name) : readAsciiClass?.named? text = none := by
  unfold readAsciiClass?.named?
  rw [hspan]
  split
  · next heq =>
    rw [← (Prod.mk.inj heq).1, asciiNamed?_of_mem h]
    rfl
  · rfl

theorem local_named? : Local readAsciiClass?.named? := by
  refine .of_append ?_
  intro text chars rest h
  rcases span_cases ':' text with ⟨name, behind, rfl, hspan⟩ | hspan
  · have hnil := hspan []
    rw [List.append_nil, List.append_nil] at hnil
    unfold readAsciiClass?.named? at h ⊢
    rw [hnil] at h
    split at h
    · next heq =>
      obtain ⟨rfl, hbehind⟩ := Prod.mk.inj heq
      obtain ⟨-, rfl⟩ := List.cons.inj hbehind
      obtain ⟨_, hname, heq⟩ := Option.map_eq_some_iff.1 h
      obtain ⟨rfl, rfl⟩ := Prod.mk.inj heq
      refine ⟨⟨name ++ [':', ']'], by simp⟩, fun more => ?_⟩
      rw [hspan]
      simp [hname]
    · nomatch h
  · -- a name without its colon is none
    have hnil := hspan []
    rw [List.append_nil] at hnil
    unfold readAsciiClass?.named? at h
    rw [hnil] at h
    nomatch h

/-- What is no name of a class in front of the closing bracket is none in front of more text. -/
theorem named?_append_none {text : List Char} (h : readAsciiClass?.named? text = none)
    (hclose : ']' ∈ text) (more : List Char) :
    readAsciiClass?.named? (text ++ more) = none := by
  rcases span_cases ':' text with ⟨name, behind, rfl, hspan⟩ | hspan
  · by_cases hname : ']' ∈ name
    · exact named?_of_mem (hspan more) hname
    · have hnil := hspan []
      rw [List.append_nil, List.append_nil] at hnil
      cases behind with
      | nil =>
        rcases List.mem_append.1 hclose with hin | hin
        · exact absurd hin hname
        · exact absurd (List.mem_singleton.1 hin) (by decide)
      | cons d behind =>
        unfold readAsciiClass?.named? at h ⊢
        rw [hspan more]
        rw [hnil] at h
        by_cases hd : d = ']'
        · subst hd
          simpa using h
        · simp [hd]
  · exact named?_of_mem (hspan more) (List.mem_append_left _ hclose)

theorem local_readAsciiClass? : Local fun text =>
    (readAsciiClass? text).map fun found => ((found.1, found.2.1), found.2.2) := by
  have hnegated := local_named?.map fun chars => (true, chars)
  have hplain := local_named?.map fun chars => (false, chars)
  refine (Local.ifHead (by decide : ':' ≠ ')')
    (Local.ifHead (by decide : '^' ≠ ')') hnegated hplain) .fail).of_eq fun text => ?_
  cases text with
  | nil => rfl
  | cons c text =>
    by_cases hc : c = ':'
    · subst hc
      cases text with
      | nil => rfl
      | cons d text =>
        by_cases hd : d = '^'
        · subst hd
          cases hname : readAsciiClass?.named? text <;> simp [readAsciiClass?, hname]
        · cases hname : readAsciiClass?.named? (d :: text) <;> simp [readAsciiClass?, hd, hname]
    · simp [readAsciiClass?, hc]

theorem readAsciiClass?_append_none {text : List Char} (h : readAsciiClass? text = none)
    (hclose : ']' ∈ text) (more : List Char) : readAsciiClass? (text ++ more) = none := by
  cases text with
  | nil => nomatch hclose
  | cons c text =>
    by_cases hc : c = ':'
    · subst hc
      have hbehind : ']' ∈ text := by simpa using hclose
      cases text with
      | nil => nomatch hbehind
      | cons d text =>
        by_cases hd : d = '^'
        · subst hd
          have hlast : ']' ∈ text := by simpa using hbehind
          have hnone : readAsciiClass?.named? text = none := by simpa [readAsciiClass?] using h
          simp [readAsciiClass?, named?_append_none hnone hlast more]
        · have hnone : readAsciiClass?.named? (d :: text) = none := by
            simpa [readAsciiClass?, hd] using h
          have hmore := named?_append_none hnone hbehind more
          rw [List.cons_append] at hmore
          simp [readAsciiClass?, hd, hmore]
    · simp [readAsciiClass?, hc]

/-! ## The front of a bracket -/

/-- What the front of a bracket says, given the hyphens there. -/
def frontMembers? (extended : Bool) : List Char → List Char → Option (CharClass × List Char)
  | _, [] => none
  | [], ']' :: rest =>
    if (skip extended rest).isEmpty then none else some (.single ']', skip extended rest)
  | [], rest => some (.none, rest)
  | _ :: _, rest => some (.single '-', rest)

theorem members?_eq (extended : Bool) (text : List Char) :
    readClassStart?.members? extended text =
      let found := takeSkipping extended (· == '-') text.length text
      frontMembers? extended found.1 found.2 := by
  rfl

theorem frontMembers?_append {extended : Bool} {hyphens text rest : List Char} {chars : CharClass}
    (h : frontMembers? extended hyphens text = some (chars, rest)) :
    rest <:+ text ∧ ∀ more,
      frontMembers? extended hyphens (text ++ more) = some (chars, rest ++ more) := by
  cases text with
  | nil => cases hyphens <;> nomatch h
  | cons c left =>
    cases hyphens with
    | cons hyphen hyphens =>
      simp only [frontMembers?, Option.some.injEq, Prod.mk.injEq] at h
      obtain ⟨rfl, rfl⟩ := h
      exact ⟨List.suffix_refl _, fun more => by simp [frontMembers?]⟩
    | nil =>
      -- a closing bracket in front is a member, provided that something follows it
      by_cases hc : c = ']'
      · subst hc
        rw [frontMembers?] at h
        split at h
        · nomatch h
        · next hskip =>
          obtain ⟨rfl, rfl⟩ := Prod.mk.inj (Option.some.inj h)
          have hne : skip extended left ≠ [] := fun hnil => hskip (List.isEmpty_iff.2 hnil)
          refine ⟨(skip_suffix extended left).trans (List.suffix_cons _ left), fun more => ?_⟩
          rw [List.cons_append, frontMembers?, skip_append hne, if_neg]
          rw [List.isEmpty_iff, List.append_eq_nil_iff]
          exact fun hnil => hne hnil.1
      · have hplain : ∀ left, frontMembers? extended [] (c :: left) = some (.none, c :: left) := by
          intro left
          simp [frontMembers?, hc]
        rw [hplain] at h
        obtain ⟨rfl, rfl⟩ := Prod.mk.inj (Option.some.inj h)
        exact ⟨List.suffix_refl _, fun more => hplain (left ++ more)⟩

theorem local_members? (extended : Bool) : Local (readClassStart?.members? extended) := by
  refine .of_append ?_
  intro text chars rest h
  rw [members?_eq] at h
  obtain ⟨hsuffix, happend⟩ := frontMembers?_append h
  refine ⟨hsuffix.trans (takeSkipping_suffix ..), fun more => ?_⟩
  -- something is left behind the hyphens, or else the bracket would not be valid
  have hne : (takeSkipping extended (· == '-') text.length text).2 ≠ [] := by
    intro hnil
    simp only [hnil] at h
    cases hhyphens : (takeSkipping extended (· == '-') text.length text).1 <;>
      rw [hhyphens] at h <;> nomatch h
  rw [members?_eq, takeSkipping_append (Nat.le_refl _) (Nat.le_refl _) hne]
  exact happend more

theorem local_readClassStart? (extended : Bool) : Local fun text =>
    (readClassStart? extended text).map fun found => ((found.1, found.2.1), found.2.2) := by
  have hnegated := ((local_members? extended).skipping extended).map fun chars => (true, chars)
  have hplain := (local_members? extended).map fun chars => (false, chars)
  refine .branch extended (by decide : '^' ≠ ')') hnegated hplain ?_ ?_
  · intro text rest hskip
    unfold readClassStart?
    rw [hskip]
    simp only
    cases readClassStart?.members? extended (skip extended rest) <;> rfl
  · intro text hhead
    unfold readClassStart?
    split
    · next hskip => exact absurd (by rw [hskip]; rfl) hhead
    · cases readClassStart?.members? extended (skip extended text) <;> rfl

/-! ## The rest of a bracket -/

theorem classOp?_append (c d : Char) (rest more : List Char) :
    classOp? (c :: d :: (rest ++ more)) =
      (classOp? (c :: d :: rest)).map fun found => (found.1, found.2 ++ more) := by
  by_cases hand : c = '&' ∧ d = '&'
  · obtain ⟨rfl, rfl⟩ := hand
    rfl
  · by_cases hminus : c = '-' ∧ d = '-'
    · obtain ⟨rfl, rfl⟩ := hminus
      rfl
    · by_cases htilde : c = '~' ∧ d = '~'
      · obtain ⟨rfl, rfl⟩ := htilde
        rfl
      · have hnone : ∀ rest, classOp? (c :: d :: rest) = none := by
          intro rest
          unfold classOp?
          split
          · next heq => simp_all
          · next heq => simp_all
          · next heq => simp_all
          · rfl
        rw [hnone, hnone]
        rfl

/-- An operator is told by two characters, and the second is there before the bracket closes. -/
theorem classOp?_append_of_closed {c : Char} {behind : List Char} (hclose : c ≠ ']')
    (hclosed : ']' ∈ c :: behind) (more : List Char) :
    classOp? (c :: (behind ++ more)) =
      (classOp? (c :: behind)).map fun found => (found.1, found.2 ++ more) := by
  have hmem : ']' ∈ behind := (List.mem_cons.1 hclosed).resolve_left hclose.symm
  obtain ⟨d, last, rfl⟩ := List.exists_cons_of_ne_nil (List.ne_nil_of_mem hmem)
  exact classOp?_append c d last more

theorem classOp?_suffix {text rest : List Char} {op : ClassOp}
    (h : classOp? text = some (op, rest)) : rest <:+ text := by
  have hbehind : ∀ (a b : Char) (rest : List Char), rest <:+ a :: b :: rest := fun a b rest =>
    (List.suffix_cons b rest).trans (List.suffix_cons a (b :: rest))
  unfold classOp? at h
  split at h
  · obtain ⟨-, rfl⟩ := Prod.mk.inj (Option.some.inj h)
    exact hbehind _ _ _
  · obtain ⟨-, rfl⟩ := Prod.mk.inj (Option.some.inj h)
    exact hbehind _ _ _
  · obtain ⟨-, rfl⟩ := Prod.mk.inj (Option.some.inj h)
    exact hbehind _ _ _
  · nomatch h

section

variable {flags : Flags} {pending : Pending} {items : CharClass} {text behind : List Char}

/-- The equation of the reader with fuel left, its binds written out. -/
theorem readClassRest?_succ (fuel : Nat) :
    readClassRest? flags (fuel + 1) pending items text =
      match skip flags.extended text with
      | [] => none
      | ']' :: rest => some (pending.finish flags items, rest)
      | '[' :: rest =>
        match readAsciiClass? rest with
        | some (negated, named, left) => (CharClass.under? flags negated named).bind fun chars =>
          readClassRest? flags fuel pending (.union items chars) left
        | none => (readClassStart? flags.extended rest).bind fun front =>
          (readClassRest? flags fuel none front.2.1 front.2.2).bind fun inner =>
            (CharClass.under? flags front.1 inner.1).bind fun chars =>
              readClassRest? flags fuel pending (.union items chars) inner.2
      | text =>
        match classOp? text with
        | some (op, left) =>
          readClassRest? flags fuel (some (pending.finish flags items, op)) .none left
        | none => (readClassItem? flags text).bind fun item =>
          readClassRest? flags fuel pending (.union items item.1) item.2 := rfl

theorem readClassRest?_close (h : skip flags.extended text = ']' :: behind) (fuel : Nat) :
    readClassRest? flags (fuel + 1) pending items text
      = some (pending.finish flags items, behind) := by
  rw [readClassRest?_succ, h]
  rfl

theorem readClassRest?_open (h : skip flags.extended text = '[' :: behind) (fuel : Nat) :
    readClassRest? flags (fuel + 1) pending items text =
      match readAsciiClass? behind with
      | some (negated, named, left) => (CharClass.under? flags negated named).bind fun chars =>
        readClassRest? flags fuel pending (.union items chars) left
      | none => (readClassStart? flags.extended behind).bind fun front =>
        (readClassRest? flags fuel none front.2.1 front.2.2).bind fun inner =>
          (CharClass.under? flags front.1 inner.1).bind fun chars =>
            readClassRest? flags fuel pending (.union items chars) inner.2 := by
  rw [readClassRest?_succ, h]
  rfl

theorem readClassRest?_item {c : Char} (h : skip flags.extended text = c :: behind)
    (hclose : c ≠ ']') (hopen : c ≠ '[') (fuel : Nat) :
    readClassRest? flags (fuel + 1) pending items text =
      match classOp? (c :: behind) with
      | some (op, left) =>
        readClassRest? flags fuel (some (pending.finish flags items, op)) .none left
      | none => (readClassItem? flags (c :: behind)).bind fun item =>
        readClassRest? flags fuel pending (.union items item.1) item.2 := by
  rw [readClassRest?_succ, h]
  split
  · next heq => nomatch heq
  · next heq => exact absurd (List.cons.inj heq).1 hclose
  · next heq => exact absurd (List.cons.inj heq).1 hopen
  · rfl

/-- What is known of the rest of a bracket once it has been read: some end of the text is left, the
closing bracket stood in front of it, and neither more text behind nor more fuel matters. -/
structure Enclosed (flags : Flags) (fuel : Nat) (pending : Pending) (items : CharClass)
    (text : List Char) (chars : CharClass) (rest : List Char) : Prop where
  suffix : rest <:+ text
  closed : ']' ∈ text
  append {fuel' : Nat} : fuel ≤ fuel' → ∀ more,
    readClassRest? flags fuel' pending items (text ++ more) = some (chars, rest ++ more)

namespace Enclosed

variable {fuel : Nat} {chars members : CharClass} {rest left : List Char}

/-- It is enough to look at the text from its first character that is not skipped, with some fuel
for that character. -/
theorem of_skip {c : Char} (hskip : skip flags.extended text = c :: behind)
    (hsuffix : rest <:+ c :: behind) (hclosed : ']' ∈ c :: behind)
    (happend : ∀ {fuel'}, fuel ≤ fuel' → ∀ more,
      skip flags.extended (text ++ more) = c :: (behind ++ more) →
        readClassRest? flags (fuel' + 1) pending items (text ++ more)
          = some (chars, rest ++ more)) :
    Enclosed flags (fuel + 1) pending items text chars rest := by
  have hfront : c :: behind <:+ text := suffix_of_skip hskip
  refine ⟨hsuffix.trans hfront, hfront.subset hclosed, fun {fuel'} hle more => ?_⟩
  cases fuel' with
  | zero => nomatch hle
  | succ fuel' =>
    exact happend (Nat.le_of_succ_le_succ hle) more (skip_eq_cons hskip (Or.inl rfl))

theorem close (hskip : skip flags.extended text = ']' :: behind) :
    Enclosed flags (fuel + 1) pending items text (pending.finish flags items) behind :=
  .of_skip hskip (List.suffix_cons ']' behind) List.mem_cons_self
    fun _ _ hmore => readClassRest?_close hmore _

/-- An ASCII class, and what follows it. -/
theorem ascii (hskip : skip flags.extended text = '[' :: behind) {negated : Bool}
    {named : CharClass} (hascii : readAsciiClass? behind = some (negated, named, left))
    (hmembers : CharClass.under? flags negated named = some members)
    (h : Enclosed flags fuel pending (.union items members) left chars rest) :
    Enclosed flags (fuel + 1) pending items text chars rest := by
  obtain ⟨hleft, hread⟩ := local_readAsciiClass?.append_pair hascii
  have hsub : left <:+ '[' :: behind := hleft.trans (List.suffix_cons '[' behind)
  refine .of_skip hskip (h.suffix.trans hsub) (hsub.subset h.closed) fun hle more hmore => ?_
  rw [readClassRest?_open hmore, hread (List.ne_nil_of_mem h.closed) more]
  simp only [hmembers, Option.bind_some]
  exact h.append hle more

/-- A bracket in the bracket, and what follows it. -/
theorem nested (hskip : skip flags.extended text = '[' :: behind) {negated : Bool}
    {front inner : CharClass} {middle : List Char} (hascii : readAsciiClass? behind = none)
    (hstart : readClassStart? flags.extended behind = some (negated, front, left))
    (hinner : Enclosed flags fuel none front left inner middle)
    (hmembers : CharClass.under? flags negated inner = some members)
    (h : Enclosed flags fuel pending (.union items members) middle chars rest) :
    Enclosed flags (fuel + 1) pending items text chars rest := by
  obtain ⟨hleft, hread⟩ := (local_readClassStart? flags.extended).append_pair hstart
  have hclosed : ']' ∈ behind := hleft.subset hinner.closed
  have hsub : middle <:+ '[' :: behind :=
    (hinner.suffix.trans hleft).trans (List.suffix_cons '[' behind)
  refine .of_skip hskip (h.suffix.trans hsub) (List.mem_cons_of_mem '[' hclosed)
    fun hle more hmore => ?_
  rw [readClassRest?_open hmore, readAsciiClass?_append_none hascii hclosed more]
  simp only [hread (List.ne_nil_of_mem hinner.closed) more, hinner.append hle more, hmembers,
    Option.bind_some]
  exact h.append hle more

/-- An operator, and its second operand. -/
theorem operator {c : Char} (hskip : skip flags.extended text = c :: behind) (hclose : c ≠ ']')
    (hopen : c ≠ '[') {op : ClassOp} (hop : classOp? (c :: behind) = some (op, left))
    (h : Enclosed flags fuel (some (pending.finish flags items, op)) .none left chars rest) :
    Enclosed flags (fuel + 1) pending items text chars rest := by
  have hsub : left <:+ c :: behind := classOp?_suffix hop
  have hclosed : ']' ∈ c :: behind := hsub.subset h.closed
  refine .of_skip hskip (h.suffix.trans hsub) hclosed fun hle more hmore => ?_
  rw [readClassRest?_item hmore hclose hopen, classOp?_append_of_closed hclose hclosed, hop]
  exact h.append hle more

/-- One more item, and what follows it. -/
theorem item {c : Char} (hskip : skip flags.extended text = c :: behind) (hclose : c ≠ ']')
    (hopen : c ≠ '[') (hop : classOp? (c :: behind) = none)
    (hitem : readClassItem? flags (c :: behind) = some (members, left))
    (h : Enclosed flags fuel pending (.union items members) left chars rest) :
    Enclosed flags (fuel + 1) pending items text chars rest := by
  have hsub : left <:+ c :: behind := readClassItem?_suffix hitem
  have hclosed : ']' ∈ c :: behind := hsub.subset h.closed
  refine .of_skip hskip (h.suffix.trans hsub) hclosed fun hle more hmore => ?_
  have hread : readClassItem? flags (c :: (behind ++ more)) = some (members, left ++ more) :=
    readClassItem?_append hitem h.closed more
  rw [readClassRest?_item hmore hclose hopen, classOp?_append_of_closed hclose hclosed, hop]
  simp only [Option.map_none, hread, Option.bind_some]
  exact h.append hle more

end Enclosed

/-- Whatever bracket is read ends with its closing bracket. -/
theorem enclosed_of_readClassRest? {fuel : Nat} {chars : CharClass} {rest : List Char}
    (h : readClassRest? flags fuel pending items text = some (chars, rest)) :
    Enclosed flags fuel pending items text chars rest := by
  induction fuel generalizing pending items chars text rest with
  | zero => nomatch h
  | succ fuel ih =>
    cases hskip : skip flags.extended text with
    | nil =>
      rw [readClassRest?_succ, hskip] at h
      nomatch h
    | cons c behind =>
      -- one case for each thing that may stand next in a bracket
      by_cases hclose : c = ']'
      · subst hclose
        rw [readClassRest?_close hskip] at h
        obtain ⟨rfl, rfl⟩ := Prod.mk.inj (Option.some.inj h)
        exact .close hskip
      by_cases hopen : c = '['
      · subst hopen
        rw [readClassRest?_open hskip] at h
        cases hascii : readAsciiClass? behind with
        | some found =>
          obtain ⟨negated, named, left⟩ := found
          rw [hascii] at h
          obtain ⟨members, hmembers, h⟩ := Option.bind_eq_some_iff.1 h
          exact .ascii hskip hascii hmembers (ih h)
        | none =>
          rw [hascii] at h
          obtain ⟨⟨negated, front, left⟩, hstart, h⟩ := Option.bind_eq_some_iff.1 h
          obtain ⟨⟨inner, middle⟩, hinner, h⟩ := Option.bind_eq_some_iff.1 h
          obtain ⟨members, hmembers, h⟩ := Option.bind_eq_some_iff.1 h
          exact .nested hskip hascii hstart (ih hinner) hmembers (ih h)
      rw [readClassRest?_item hskip hclose hopen] at h
      cases hop : classOp? (c :: behind) with
      | some found =>
        obtain ⟨op, left⟩ := found
        rw [hop] at h
        exact .operator hskip hclose hopen hop (ih h)
      | none =>
        rw [hop] at h
        obtain ⟨⟨members, left⟩, hitem, h⟩ := Option.bind_eq_some_iff.1 h
        exact .item hskip hclose hopen hop hitem (ih h)

end

/-- A bracketed class is read the same in front of more text. -/
theorem local_readClass? (flags : Flags) : Local (readClass? flags) := by
  refine .of_append ?_
  intro text chars rest h
  obtain ⟨⟨negated, front, left⟩, hstart, h⟩ := Option.bind_eq_some_iff.1 h
  obtain ⟨⟨inner, middle⟩, hinner, h⟩ := Option.bind_eq_some_iff.1 h
  obtain ⟨members, hmembers, h⟩ := Option.bind_eq_some_iff.1 h
  obtain ⟨rfl, rfl⟩ := Prod.mk.inj (Option.some.inj h)
  have hbracket := enclosed_of_readClassRest? hinner
  obtain ⟨hleft, hstartMore⟩ := (local_readClassStart? flags.extended).append_pair hstart
  refine ⟨hbracket.suffix.trans hleft, fun more => ?_⟩
  have hfuel : left.length + 1 ≤ (left ++ more).length + 1 := by
    rw [List.length_append]
    omega
  unfold readClass?
  rw [hstartMore (List.ne_nil_of_mem hbracket.closed) more]
  simp only [Option.bind_eq_bind, Option.bind_some, hbracket.append hfuel more, hmembers]
  rfl

end Descent.Regex.Text
