/-!
# Places in a text

A place is a gap between two characters, held as what stands on either side of it. Matching walks
to the right, yet a line start or a word boundary looks at the character on the left, so the text
before the place is kept as well, the nearest character first.
-/

namespace Descent

/-- A gap in a text: the characters before it, nearest first, and the characters after it. -/
structure Place where
  before : List Char
  after : List Char
deriving DecidableEq, Repr

namespace Place

/-- The place in front of a whole text. -/
def front (text : List Char) : Place := ⟨[], text⟩

/-- One character further, or the same place at the end of the text. -/
def next (p : Place) : Place :=
  match p.after with
  | [] => p
  | c :: rest => ⟨c :: p.before, rest⟩

/-- Some characters further. -/
def advance (p : Place) : Nat → Place
  | 0 => p
  | n + 1 => p.next.advance n

/-- The character on the left. -/
def left? (p : Place) : Option Char := p.before.head?

/-- The character on the right. -/
def right? (p : Place) : Option Char := p.after.head?

/-! ## What moving does -/

@[simp] theorem advance_zero (p : Place) : p.advance 0 = p := rfl

@[simp] theorem advance_succ (p : Place) (n : Nat) : p.advance (n + 1) = p.next.advance n := rfl

/-- Moving drops characters on the right, and only there. -/
theorem after_advance (p : Place) (n : Nat) : (p.advance n).after = p.after.drop n := by
  induction n generalizing p with
  | zero => rfl
  | succ n ih =>
    obtain ⟨before, after⟩ := p
    cases after <;> simp [next, ih]

theorem after_next (p : Place) : p.next.after = p.after.drop 1 := after_advance p 1

/-- What is passed is put in front of what has been passed before. -/
theorem before_advance (p : Place) (n : Nat) :
    (p.advance n).before = (p.after.take n).reverse ++ p.before := by
  induction n generalizing p with
  | zero => rfl
  | succ n ih =>
    obtain ⟨before, after⟩ := p
    cases after <;> simp [next, ih]

end Place

end Descent
