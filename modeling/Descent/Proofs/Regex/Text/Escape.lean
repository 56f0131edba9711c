import Descent.Proofs.Regex.Text.Local
import Descent.Regex.Text.Escape

/-!
# Escapes in front of more text

What a backslash begins is read the same in front of more text. The readers are put together from a
few parts, and locality goes from the parts to the whole.
-/

namespace Descent.Regex.Text

/-! ## Characters -/

theorem local_takeHex? (extended : Bool) (n : Nat) : Local (takeHex? extended n) := by
  induction n with
  | zero => exact .give (some [])
  | succ n ih =>
    have hdigit : ∀ c, Local fun rest =>
        if (digit? c).isSome then
          (takeHex? extended n (skip extended rest)).map fun found => (c :: found.1, found.2)
        else none := by
      intro c
      by_cases hc : (digit? c).isSome
      · simp only [if_pos hc]
        exact (ih.skipping extended).map (c :: ·)
      · simp only [if_neg hc]
        exact .fail
    exact (Local.uncons hdigit).of_eq fun text => by cases text <;> rfl

/-- The character that some digits stand for. -/
def codeAtom? (byte : Bool) (digits : List Char) : Option Atom :=
  (charOfCode? (number 16 digits)).map fun c => .char c byte

theorem local_readHex? (extended : Bool) (width : Nat) : Local (readHex? extended width) := by
  -- any number of digits in braces, or as many as the letter asks for
  have hdigits := (local_run extended (fun c => (digit? c).isSome) (· == '\x7d')).skipping extended
  have hbraced := (hdigits.mapSome fun digits =>
    if digits.isEmpty then none else codeAtom? false digits).bind fun atom =>
      (local_skip extended).map fun _ => atom
  have hplain := (local_takeHex? extended width).mapSome (codeAtom? (width == 2))
  refine .branch extended (by decide : '\x7b' ≠ ')') hbraced hplain ?_ ?_
  · intro text rest hskip
    unfold readHex?
    rw [hskip]
    simp only
    generalize takeSkipping extended _ _ _ = found
    obtain ⟨digits, left⟩ := found
    cases left with
    | nil => rfl
    | cons c left =>
      by_cases hc : c = '\x7d'
      · rw [hc]
        cases digits with
        | nil => rfl
        | cons d digits =>
          cases hcode : charOfCode? (number 16 (d :: digits)) <;> simp [codeAtom?, hcode]
      · simp [hc]
  · intro text hhead
    unfold readHex?
    split
    · next hskip => exact absurd (by rw [hskip]; rfl) hhead
    · cases takeHex? extended width (skip extended text) with
      | none => rfl
      | some found => cases hcode : charOfCode? (number 16 found.1) <;> simp [codeAtom?, hcode]

/-! ## Classes -/

/-- The class of the property with a given name. -/
def propertyAtom? (flags : Flags) (negated : Bool) (name : List Char) : Option Atom :=
  (namedProperty? name).bind fun found =>
    if flags.unicode then
      (CharClass.under? flags (negated != found.2) (.property found.1)).map .set
    else none

theorem map_propertyAtom? (flags : Flags) (negated : Bool) (name rest : List Char) :
    ((propertyAtom? flags negated name).map fun atom => (atom, rest)) =
      (namedProperty? name).bind fun found =>
        if flags.unicode then
          (CharClass.under? flags (negated != found.2) (.property found.1)).bind fun chars =>
            some (Atom.set chars, rest)
        else none := by
  rw [propertyAtom?, Option.map_bind]
  refine congrArg (Option.bind _) (funext fun found => ?_)
  rw [Function.comp_apply]
  cases flags.unicode with
  | false => rfl
  | true =>
    simp only [if_true, Option.map_map]
    cases CharClass.under? flags (negated != found.2) (.property found.1) <;> rfl

theorem local_readProperty? (flags : Flags) (negated : Bool) :
    Local (readProperty? flags negated) := by
  -- a name in braces, or one letter
  have hbraced := ((local_run flags.extended (· != '\x7d') fun _ => true).skipping
    flags.extended).mapSome (propertyAtom? flags negated)
  have hletter : ∀ c, Local fun rest : List Char =>
      if c = '\\' then none else some ([c], skip flags.extended rest) := by
    intro c
    by_cases hc : c = '\\'
    · simp only [if_pos hc]
      exact .fail
    · simp only [if_neg hc]
      exact (local_skip flags.extended).map fun _ => [c]
  have hplain := (Local.uncons hletter).mapSome (propertyAtom? flags negated)
  refine .branch flags.extended (by decide : '\x7b' ≠ ')') hbraced hplain ?_ ?_
  · intro text rest hskip
    unfold readProperty?
    rw [hskip]
    simp only
    generalize takeSkipping flags.extended _ _ _ = found
    obtain ⟨name, left⟩ := found
    cases left with
    | nil => rfl
    | cons c left => exact (map_propertyAtom? flags negated name left).symm
  · intro text hhead
    unfold readProperty?
    cases hskip : skip flags.extended text with
    | nil => rfl
    | cons c rest =>
      have hbrace : c ≠ '\x7b' := fun heq => hhead (by rw [hskip, heq]; rfl)
      by_cases hc : c = '\\'
      · rw [hc]
        rfl
      · simp only [if_neg hc, Option.bind_some, map_propertyAtom?]
        rfl

/-! ## Conditions -/

/-- A name in braces, behind the opening one. -/
theorem local_boundaryName? (flags : Flags) : Local fun body =>
    let (name, left) := takeSkipping flags.extended isBoundaryLetter body.length body
    match left with
    | '\x7d' :: left => (readBoundary?.named? flags name).map fun a => (Atom.anchor a, left)
    | _ => none := by
  have hrun := (local_run flags.extended isBoundaryLetter (· == '\x7d')).mapSome
    fun name => (readBoundary?.named? flags name).map Atom.anchor
  refine hrun.of_eq fun body => ?_
  simp only
  generalize takeSkipping flags.extended _ _ _ = found
  obtain ⟨name, left⟩ := found
  cases left with
  | nil => rfl
  | cons c left =>
    by_cases hc : c = '\x7d'
    · rw [hc]
      cases hname : readBoundary?.named? flags name <;> simp [hname]
    · simp [hc]

theorem local_readBoundary? (flags : Flags) : Local (readBoundary? flags) := by
  have hname := local_boundaryName? flags
  constructor
  · intro text value rest h
    unfold readBoundary? at h
    simp only at h
    split at h
    · next behind =>
      have hbody : skip flags.extended behind <:+ '\x7b' :: behind :=
        (skip_suffix flags.extended behind).trans (List.suffix_cons _ behind)
      split at h
      · nomatch h
      · split at h
        · exact (hname.suffix h).trans hbody
        · obtain ⟨-, rfl⟩ := Prod.mk.inj (Option.some.inj h)
          exact List.suffix_refl _
    · obtain ⟨-, rfl⟩ := Prod.mk.inj (Option.some.inj h)
      exact List.suffix_refl _
  · intro text value rest more h hmore
    cases text with
    | nil =>
      obtain ⟨rfl, rfl⟩ := Prod.mk.inj (Option.some.inj h)
      rw [hmore rfl]
      exact ⟨[')'], rfl, Or.inl rfl⟩
    | cons d behind =>
      rw [List.cons_append]
      -- a brace belongs to the condition only if a letter of a name follows
      by_cases hd : d = '\x7b'
      · subst hd
        unfold readBoundary? at h ⊢
        simp only at h ⊢
        cases hbody : skip flags.extended behind with
        | nil =>
          rw [hbody] at h
          nomatch h
        | cons c body =>
          have hbody' : skip flags.extended (behind ++ more) = c :: (body ++ more) :=
            skip_eq_cons hbody (Or.inl rfl)
          rw [hbody] at h
          rw [hbody']
          simp only at h ⊢
          by_cases hc : isBoundaryLetter c = true
          · rw [if_pos hc] at h ⊢
            exact hname.append h hmore
          · rw [if_neg hc] at h ⊢
            obtain ⟨rfl, rfl⟩ := Prod.mk.inj (Option.some.inj h)
            exact ⟨_, rfl, Or.inl rfl⟩
      · have hplain : ∀ text, readBoundary? flags (d :: text)
            = some (.anchor (.wordBoundary flags.unicode), d :: text) := by
          intro text
          rw [readBoundary?]
          intro rest' heq
          exact hd (List.cons.inj heq).1
        rw [hplain] at h ⊢
        obtain ⟨rfl, rfl⟩ := Prod.mk.inj (Option.some.inj h)
        exact ⟨_, rfl, Or.inl rfl⟩

/-! ## Escapes -/

/-- What a letter stands for by itself. -/
def letterAtom? (flags : Flags) (c : Char) : Option Atom :=
  match shorthand? flags c with
  | some chars? => chars?.map .set
  | none =>
    if isEscapable c then some (.char c false)
    else
      match controlOf? c with
      | some control => some (.char control false)
      | none => (conditionOf? flags c).map .anchor

theorem local_readEscape? (flags : Flags) : Local (readEscape? flags) := by
  have hbehind : ∀ c, Local fun rest => readEscape? flags (c :: rest) := by
    intro c
    by_cases hx : c = 'x'
    · subst hx
      exact local_readHex? flags.extended 2
    by_cases hu : c = 'u'
    · subst hu
      exact local_readHex? flags.extended 4
    by_cases hU : c = 'U'
    · subst hU
      exact local_readHex? flags.extended 8
    by_cases hp : c = 'p'
    · subst hp
      exact local_readProperty? flags false
    by_cases hP : c = 'P'
    · subst hP
      exact local_readProperty? flags true
    by_cases hb : c = 'b'
    · subst hb
      exact local_readBoundary? flags
    -- the other letters say all by themselves
    refine (Local.give (letterAtom? flags c)).of_eq fun rest => ?_
    rw [readEscape?, letterAtom?]
    · cases shorthand? flags c with
      | some chars? => cases chars? <;> rfl
      | none =>
        by_cases hc : isEscapable c = true
        · simp only [if_pos hc, Option.map_some]
        · simp only [if_neg hc]
          cases controlOf? c with
          | some control => rfl
          | none => cases conditionOf? flags c <;> rfl
    all_goals assumption
  exact (Local.uncons hbehind).of_eq fun text => by cases text <;> rfl

end Descent.Regex.Text
