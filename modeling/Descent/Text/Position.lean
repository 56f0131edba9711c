/-!
# Positions in a text

A position counts lines and, within a line, characters, both from zero; shown to a reader, both
count from one. Positions are ordered by line and then by column, which is the order in which a
text passes through them. A span counts bytes instead.
-/

namespace Descent

/-- A line and a column, both counted from zero. -/
structure Position where
  line : Nat
  col : Nat
deriving DecidableEq, Repr

namespace Position

/-- Where a text begins. -/
def start : Position := ⟨0, 0⟩

/-- What a text has behind its last line break, which is all of it if there is none. -/
def lastLine (text : List Char) : List Char := (text.reverse.takeWhile (· != '\n')).reverse

/-- The position behind a text that begins here. A text with line breaks leaves a column that counts
from the last of them, whatever the column was before. -/
def advance (here : Position) (text : List Char) : Position :=
  if '\n' ∈ text then ⟨here.line + text.count '\n', (lastLine text).length⟩
  else ⟨here.line, here.col + text.length⟩

/-- The words by which a reader finds the position. -/
def describe (p : Position) : String := s!"line {p.line + 1}, col {p.col + 1}"

/-- Earlier lines come first, and earlier columns within a line. -/
def compare (a b : Position) : Ordering :=
  (Ord.compare a.line b.line).then (Ord.compare a.col b.col)

/-- Whether a position comes before another. -/
def isBefore (a b : Position) : Bool := a.compare b == .lt

@[simp] theorem advance_nil (h : Position) : h.advance [] = h := rfl

theorem advance_of_mem (h : Position) {text : List Char} (ht : '\n' ∈ text) :
    h.advance text = ⟨h.line + text.count '\n', (lastLine text).length⟩ := if_pos ht

theorem advance_of_notMem (h : Position) {text : List Char} (ht : '\n' ∉ text) :
    h.advance text = ⟨h.line, h.col + text.length⟩ := if_neg ht

theorem bne_of_notMem {text : List Char} (h : '\n' ∉ text) : ∀ c ∈ text, (c != '\n') = true :=
  fun _ hc => bne_iff_ne.2 fun he => h (he ▸ hc)

/-- A text without line breaks is one line. -/
theorem lastLine_of_notMem {text : List Char} (h : '\n' ∉ text) : lastLine text = text := by
  have hall := bne_of_notMem fun hm => h (List.mem_reverse.1 hm)
  have hline : (text.reverse ++ []).takeWhile (· != '\n') = text.reverse ++ [] :=
    List.takeWhile_append_of_pos hall
  rw [List.append_nil] at hline
  rw [lastLine, hline, List.reverse_reverse]

/-- A line break in the second part hides the first part. -/
theorem lastLine_append_of_mem (a : List Char) {b : List Char} (h : '\n' ∈ b) :
    lastLine (a ++ b) = lastLine b := by
  obtain ⟨line, rest, hb, hline⟩ := List.eq_append_cons_of_mem (List.mem_reverse.2 h)
  have hall := bne_of_notMem hline
  rw [lastLine, lastLine, List.reverse_append, hb, List.append_assoc,
    List.takeWhile_append_of_pos hall, List.takeWhile_append_of_pos hall]
  simp

theorem lastLine_append_of_notMem (a : List Char) {b : List Char} (h : '\n' ∉ b) :
    lastLine (a ++ b) = lastLine a ++ b := by
  have hall := bne_of_notMem fun hm => h (List.mem_reverse.1 hm)
  rw [lastLine, lastLine, List.reverse_append, List.takeWhile_append_of_pos hall,
    List.reverse_append, List.reverse_reverse]

/-- A text may be passed in two parts. -/
theorem advance_append (h : Position) (a b : List Char) :
    h.advance (a ++ b) = (h.advance a).advance b := by
  by_cases hb : '\n' ∈ b
  · -- the lines of `a` still count, its columns do not
    have hab : '\n' ∈ a ++ b := List.mem_append_right a hb
    rw [advance_of_mem _ hab, advance_of_mem _ hb, lastLine_append_of_mem a hb, List.count_append]
    by_cases ha : '\n' ∈ a
    · rw [advance_of_mem _ ha, Nat.add_assoc]
    · rw [advance_of_notMem _ ha, List.count_eq_zero_of_not_mem ha, Nat.zero_add]
  · rw [advance_of_notMem _ hb]
    by_cases ha : '\n' ∈ a
    · have hab : '\n' ∈ a ++ b := List.mem_append_left b ha
      rw [advance_of_mem _ hab, advance_of_mem _ ha, lastLine_append_of_notMem a hb,
        List.count_append, List.count_eq_zero_of_not_mem hb, Nat.add_zero, List.length_append]
    · have hab : '\n' ∉ a ++ b := fun hm => (List.mem_append.1 hm).elim ha hb
      rw [advance_of_notMem _ hab, advance_of_notMem _ ha, List.length_append, Nat.add_assoc]

theorem isBefore_iff {a b : Position} :
    a.isBefore b = true ↔ a.line < b.line ∨ (a.line = b.line ∧ a.col < b.col) := by
  simp only [isBefore, compare, beq_iff_eq, Ordering.then_eq_lt, Nat.compare_eq_lt,
    Nat.compare_eq_eq]

end Position

/-- A range of bytes. -/
structure Span where
  offset : Nat
  length : Nat
deriving DecidableEq, Repr

/-- The start and the end of a stretch of text. -/
structure Location where
  start : Position
  stop : Position
deriving DecidableEq, Repr

end Descent
