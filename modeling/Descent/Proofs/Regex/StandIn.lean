import Mathlib.Data.List.Pairwise
import Descent.Regex.Reach

/-!
# Characters that stand for others

Most patterns are written with ASCII characters, digits and white space. Such a pattern tells every
ASCII character from every other one, and of the rest only digits and white space. So each character
beyond ASCII can be replaced by one of three that stand for all of them (`standIn`), and what holds
of the pattern and of these 131 characters holds of the pattern and of all characters.

A single pattern tells even fewer characters apart. Of those that are in the same of its classes one
is enough (`CharClass.sorts`).
-/

namespace Descent

/-! ## Tables without common characters -/

namespace Unicode

theorem exists_run_of_covers {runs : List Run} {code : Nat} (h : covers runs code = true) :
    ∃ run ∈ runs, run.first ≤ code ∧ code ≤ run.last := by
  induction runs with
  | nil => nomatch h
  | cons run rest ih =>
    rw [covers] at h
    split at h
    · nomatch h
    · obtain hrun | hrest := Bool.or_eq_true_iff.1 h
      · simp only [Run.contains, Bool.and_eq_true, decide_eq_true_eq] at hrun
        exact ⟨run, List.mem_cons_self, hrun.1⟩
      · obtain ⟨run', hmem, hbounds⟩ := ih hrest
        exact ⟨run', List.mem_cons_of_mem _ hmem, hbounds⟩

/-- Tables whose runs lie apart have no code point in common. -/
theorem covers_eq_false_of_apart {runs others : List Run}
    (h : ∀ run ∈ runs, ∀ other ∈ others, run.last < other.first ∨ other.last < run.first)
    {code : Nat} (hcode : covers runs code = true) : covers others code = false := by
  refine Bool.eq_false_iff.2 fun hother => ?_
  obtain ⟨run, hrun, hfirst, hlast⟩ := exists_run_of_covers hcode
  obtain ⟨other, hmem, hfirst', hlast'⟩ := exists_run_of_covers hother
  have := h run hrun other hmem
  omega

/-- No digit is white space. -/
theorem space_eq_false_of_digit {c : Char} (h : Property.digit.holds c = true) :
    Property.space.holds c = false :=
  covers_eq_false_of_apart (by decide) h

end Unicode

/-! ## Stand-ins -/

/-- The character that stands for a character: itself in ASCII, else one digit for all digits, one
white space for all white space, and one character for all others. -/
def standIn (c : Char) : Char :=
  if c ≤ '\x7f' then c
  else if Unicode.Property.digit.holds c then '٣'
  else if Unicode.Property.space.holds c then '\u00a0'
  else '§'

/-- All characters that stand for others. -/
def standIns : List Char := ['٣', '\u00a0', '§'] ++ (List.range 0x80).map Char.ofNat

theorem standIn_mem (c : Char) : standIn c ∈ standIns := by
  rw [standIn, standIns, List.mem_append]
  split
  · next h =>
    refine Or.inr (List.mem_map.2 ⟨c.toNat, List.mem_range.2 ?_, Char.ofNat_toNat c⟩)
    exact Nat.lt_succ_of_le h
  · refine Or.inl ?_
    split
    · decide
    · split <;> decide

theorem standIn_cases (c : Char) :
    standIn c = c ∨ ¬c ≤ '\x7f' ∧ ¬standIn c ≤ '\x7f' := by
  rw [standIn]
  split
  · exact Or.inl rfl
  · next h =>
    refine Or.inr ⟨h, ?_⟩
    split
    · decide
    · split <;> decide

theorem digit_standIn (c : Char) :
    Unicode.Property.digit.holds (standIn c) = Unicode.Property.digit.holds c := by
  rw [standIn]
  split
  · rfl
  · split
    · next h =>
      rw [h]
      decide
    · next h =>
      rw [Bool.not_eq_true] at h
      rw [h]
      split <;> decide

theorem space_standIn (c : Char) :
    Unicode.Property.space.holds (standIn c) = Unicode.Property.space.holds c := by
  rw [standIn]
  split
  · rfl
  · split
    · next h =>
      rw [Unicode.space_eq_false_of_digit h]
      decide
    · split
      · next h =>
        rw [h]
        decide
      · next h =>
        rw [Bool.not_eq_true] at h
        rw [h]
        decide

namespace CharClass

/-- Whether a class is written with ASCII characters, digits and white space. -/
def isPlain : CharClass → Bool
  | none => true
  | range _ last => last ≤ '\x7f'
  | property p => p = .digit || p = .space
  | union a b | inter a b | diff a b | symmDiff a b => a.isPlain && b.isPlain
  | complement a => a.isPlain
  | folded _ => false

/-- Such a class does not tell a character from its stand-in. -/
theorem holds_standIn {chars : CharClass} (h : chars.isPlain = true) (c : Char) :
    chars.holds (standIn c) = chars.holds c := by
  induction chars with
  | none => rfl
  | range first last =>
    obtain heq | ⟨hc, hstand⟩ := standIn_cases c
    · rw [heq]
    · have hlast : last ≤ '\x7f' := of_decide_eq_true h
      have hbeyond {d : Char} (hd : ¬d ≤ '\x7f') : (range first last).holds d = false := by
        have hnot : ¬d ≤ last := fun hle => hd (Char.le_trans hle hlast)
        rw [holds, decide_eq_false hnot, Bool.and_false]
      rw [hbeyond hc, hbeyond hstand]
  | property p =>
    rw [isPlain, Bool.or_eq_true, decide_eq_true_eq, decide_eq_true_eq] at h
    obtain rfl | rfl := h
    · exact digit_standIn c
    · exact space_standIn c
  | union a b iha ihb | inter a b iha ihb | diff a b iha ihb | symmDiff a b iha ihb =>
    rw [isPlain, Bool.and_eq_true] at h
    simp only [holds, iha h.1, ihb h.2]
  | complement a ih => simp only [holds, ih h]
  | folded a => nomatch h

/-- Which of some classes a character is in. -/
def signature (classes : List CharClass) (c : Char) : List Bool := classes.map (·.holds c)

/-- Characters such that every character is in the same of some classes as one of them. -/
def sorts (classes : List CharClass) : List Char :=
  standIns.pwFilter fun a b => signature classes a ≠ signature classes b

theorem exists_sort {classes : List CharClass} (h : ∀ chars ∈ classes, chars.isPlain = true)
    (c : Char) : ∃ d ∈ sorts classes, signature classes d = signature classes c := by
  have htrans {a b d : Char} (hne : signature classes a ≠ signature classes d) :
      signature classes a ≠ signature classes b ∨ signature classes b ≠ signature classes d :=
    Decidable.or_iff_not_imp_left.2 fun hab hbd => hab fun heq => hne (heq.trans hbd)
  have hstand : signature classes c = signature classes (standIn c) :=
    List.map_congr_left fun chars hchars => (holds_standIn (h chars hchars) c).symm
  -- else the stand-in would be unlike all stand-ins
  refine Decidable.byContradiction fun hnone => ?_
  have hsorts : ∀ d ∈ sorts classes, signature classes c ≠ signature classes d :=
    fun d hd heq => hnone ⟨d, hd, heq.symm⟩
  have hnever := (List.forall_mem_pwFilter
    (R := fun a b => signature classes a ≠ signature classes b) htrans c standIns).1 hsorts
  exact hnever (standIn c) (standIn_mem c) hstand

end CharClass

end Descent
