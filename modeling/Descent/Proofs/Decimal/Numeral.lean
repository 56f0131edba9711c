import Mathlib.Data.List.TakeDrop
import Mathlib.Data.List.TakeWhile
import Descent.Decimal.Literal
import Descent.Unicode.Property

/-!
# Numerals of other scripts

Unicode has decimal digits of many scripts. A numeral written in any of them, perhaps with a sign
and a fraction, is read as a float if its digits are those of ASCII, and not at all if any digit is
of another script (`Decimal.isSome_float?_iff`).
-/

namespace Descent

/-- Whether a text has no characters beyond ASCII. -/
def IsAscii (text : List Char) : Prop := ∀ c ∈ text, c.toNat < 128

instance (text : List Char) : Decidable (IsAscii text) := List.decidableBAll _ text

namespace Decimal

/-- Whether a text is one or more decimal digits of whatever script. -/
structure AreDigits (text : List Char) : Prop where
  ne_nil : text ≠ []
  digit : ∀ c ∈ text, Unicode.Property.digit.holds c = true

/-- The numerals without a sign. -/
inductive Unsigned : List Char → Prop
  | whole {digits : List Char} (h : AreDigits digits) : Unsigned digits
  | point {digits fraction : List Char} (h : AreDigits digits) (hfraction : AreDigits fraction) :
    Unsigned (digits ++ '.' :: fraction)

/-- The decimal digits of ASCII are those that are read. -/
theorem isDigit_iff {c : Char} (hc : Unicode.Property.digit.holds c = true) :
    isDigit c = true ↔ c.toNat < 128 := by
  have hascii : ∀ n < 128, Unicode.Property.digit.holds (Char.ofNat n) = true →
      isDigit (Char.ofNat n) = true := by decide
  constructor
  · intro h
    have hle : c.toNat ≤ '9'.toNat := by
      rw [isDigit, Bool.and_eq_true, decide_eq_true_iff, decide_eq_true_iff] at h
      exact h.2
    exact Nat.lt_of_le_of_lt hle (by decide)
  · intro h
    rw [← Char.ofNat_toNat c] at hc ⊢
    exact hascii c.toNat h hc

namespace AreDigits

variable {digits tail : List Char} (h : AreDigits digits)

include h

theorem all_isDigit_iff : (∀ c ∈ digits, isDigit c = true) ↔ IsAscii digits :=
  forall₂_congr fun c hc => isDigit_iff (h.digit c hc)

theorem exists_cons : ∃ c rest, digits = c :: rest ∧ c ≠ '-' ∧ c ≠ '+' := by
  obtain ⟨c, rest, rfl⟩ := List.exists_cons_of_ne_nil h.ne_nil
  have hc := h.digit c List.mem_cons_self
  refine ⟨c, rest, rfl, ?_, ?_⟩ <;> · rintro rfl; revert hc; decide

/-- A digit of another script ends what is read as a number, and no point stands there. -/
theorem unsigned?_eq_none (hascii : ¬IsAscii digits) : unsigned? (digits ++ tail) = none := by
  have hrest : digits.dropWhile isDigit ≠ [] := by
    rw [Ne, List.dropWhile_eq_nil_iff, h.all_isDigit_iff]
    exact hascii
  obtain ⟨c, rest, hdrop⟩ := List.exists_cons_of_ne_nil hrest
  have hc : c ≠ '.' := by
    have hmem : c ∈ digits :=
      (List.dropWhile_sublist isDigit).subset (hdrop ▸ List.mem_cons_self)
    rintro rfl
    exact absurd (h.digit _ hmem) (by decide)
  have hspan : (digits ++ tail).dropWhile isDigit = c :: (rest ++ tail) := by
    rw [List.dropWhile_append, hdrop]
    rfl
  rw [unsigned?, List.span_eq_takeWhile_dropWhile, hspan]
  simp [hc]

theorem isSome_unsigned? (hascii : IsAscii digits) : (unsigned? digits).isSome = true := by
  have hall := h.all_isDigit_iff.2 hascii
  rw [unsigned?, List.span_eq_takeWhile_dropWhile, List.dropWhile_eq_nil_iff.2 hall,
    List.takeWhile_eq_self_iff.2 hall]
  simp [h.ne_nil]

theorem isSome_unsigned?_point (hascii : IsAscii digits) (fraction : List Char) :
    (unsigned? (digits ++ '.' :: fraction)).isSome = fraction.all isDigit := by
  have hall := h.all_isDigit_iff.2 hascii
  have hpoint : isDigit '.' = false := by decide
  rw [unsigned?, List.span_eq_takeWhile_dropWhile, List.dropWhile_append_of_pos hall,
    List.takeWhile_append_of_pos hall, List.dropWhile_cons, List.takeWhile_cons, hpoint]
  cases hfraction : fraction.all isDigit <;> simp [h.ne_nil, hfraction]

end AreDigits

theorem isAscii_append {text more : List Char} :
    IsAscii (text ++ more) ↔ IsAscii text ∧ IsAscii more :=
  List.forall_mem_append

theorem isAscii_cons {c : Char} {text : List Char} (hc : c.toNat < 128) :
    IsAscii (c :: text) ↔ IsAscii text :=
  List.forall_mem_cons.trans (and_iff_right hc)

namespace Unsigned

variable {text : List Char}

/-- A numeral without a sign is read if it is all ASCII. -/
theorem isSome_unsigned?_iff (h : Unsigned text) :
    (unsigned? text).isSome = true ↔ IsAscii text := by
  cases h with
  | whole h =>
    refine ⟨fun hsome => ?_, h.isSome_unsigned?⟩
    refine Decidable.not_not.1 fun hascii => ?_
    rw [← List.append_nil text, h.unsigned?_eq_none hascii] at hsome
    nomatch hsome
  | @point digits fraction h hfraction =>
    rw [isAscii_append, isAscii_cons (by decide), ← hfraction.all_isDigit_iff, ← List.all_eq_true]
    by_cases hascii : IsAscii digits
    · rw [h.isSome_unsigned?_point hascii]
      exact (and_iff_right hascii).symm
    · rw [h.unsigned?_eq_none hascii]
      exact iff_of_false nofun fun hboth => hascii hboth.1

/-- A numeral does not begin with a sign. -/
theorem float?_eq (h : Unsigned text) : float? text = unsigned? text := by
  have hfirst : ∃ c rest, text = c :: rest ∧ c ≠ '-' ∧ c ≠ '+' := by
    cases h with
    | whole h =>
      obtain ⟨c, rest, rfl, hminus, hplus⟩ := h.exists_cons
      exact ⟨c, rest, rfl, hminus, hplus⟩
    | point h hfraction =>
      obtain ⟨c, rest, rfl, hminus, hplus⟩ := h.exists_cons
      exact ⟨c, _, rfl, hminus, hplus⟩
  obtain ⟨c, rest, rfl, hminus, hplus⟩ := hfirst
  rw [float?]
  · rintro _ ⟨rfl, -⟩
    exact hminus rfl
  · rintro _ ⟨rfl, -⟩
    exact hplus rfl

end Unsigned

/-- A numeral, perhaps with a minus sign, is read if it is all ASCII. -/
theorem isSome_float?_iff {sign text : List Char} (hsign : sign = [] ∨ sign = ['-'])
    (h : Unsigned text) : (float? (sign ++ text)).isSome = true ↔ IsAscii (sign ++ text) := by
  obtain rfl | rfl := hsign
  · rw [List.nil_append, h.float?_eq]
    exact h.isSome_unsigned?_iff
  · rw [List.singleton_append, isAscii_cons (by decide), ← h.isSome_unsigned?_iff, float?,
      Option.isSome_map]

end Decimal

end Descent
