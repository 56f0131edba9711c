import Descent.Regex.Basic

/-!
# Flags and blanks of a pattern

A pattern is read from left to right under flags that it may change on the way. In the extended
layout blanks mean nothing and a `#` hides the rest of its line, so nearly every step of the reader
skips blanks first.
-/

namespace Descent.Regex.Text

/-- How the text of a pattern is to be understood from some place on. -/
structure Flags where
  caseInsensitive : Bool
  multiLine : Bool
  dotAll : Bool
  /-- Greedy and lazy repetitions trade places. -/
  swapGreed : Bool
  unicode : Bool
  /-- Blanks and comments mean nothing. -/
  extended : Bool
  /-- A carriage return ends a line too. -/
  crlf : Bool
deriving DecidableEq, Repr

namespace Flags

/-- The flags at the start of a pattern. -/
def initial : Flags := ⟨false, false, false, false, true, false, false⟩

/-- Sets the flag that a letter stands for. -/
def set? (flags : Flags) (value : Bool) : Char → Option Flags
  | 'i' => some { flags with caseInsensitive := value }
  | 'm' => some { flags with multiLine := value }
  | 's' => some { flags with dotAll := value }
  | 'U' => some { flags with swapGreed := value }
  | 'u' => some { flags with unicode := value }
  | 'x' => some { flags with extended := value }
  | 'R' => some { flags with crlf := value }
  | _ => none

end Flags

/-! ## Blanks -/

/-- White space of the extended layout. -/
def isBlank (c : Char) : Bool := Unicode.Property.space.holds c

/-- Drops blanks and comments; `inComment` tells that the line is already hidden. -/
def dropBlanks (inComment : Bool) : List Char → List Char
  | [] => []
  | c :: rest =>
    if inComment then dropBlanks (c != '\n') rest
    else if isBlank c then dropBlanks false rest
    else if c = '#' then dropBlanks true rest
    else c :: rest

/-- The text from the next character that means something. -/
def skip (extended : Bool) (text : List Char) : List Char :=
  if extended then dropBlanks false text else text

/-- Takes characters that satisfy a test, skipping blanks after each. -/
def takeSkipping (extended : Bool) (test : Char → Bool) :
    Nat → List Char → List Char × List Char
  | 0, text => ([], text)
  | _ + 1, [] => ([], [])
  | fuel + 1, c :: rest =>
    if test c then
      let (taken, left) := takeSkipping extended test fuel (skip extended rest)
      (c :: taken, left)
    else ([], c :: rest)

/-! ## Numbers -/

/-- The value of a digit in a base up to sixteen, or nothing for other characters. -/
def digit? (c : Char) : Option Nat :=
  if '0' ≤ c ∧ c ≤ '9' then some (c.toNat - '0'.toNat)
  else if 'a' ≤ c ∧ c ≤ 'f' then some (c.toNat - 'a'.toNat + 10)
  else if 'A' ≤ c ∧ c ≤ 'F' then some (c.toNat - 'A'.toNat + 10)
  else none

/-- The number that some digits denote. -/
def number (base : Nat) (digits : List Char) : Nat :=
  digits.foldl (fun n c => n * base + (digit? c).getD 0) 0

/-- The character with a given code, unless the code is a surrogate or too large. -/
def charOfCode? (code : Nat) : Option Char :=
  if code.isValidChar then some (Char.ofNat code) else none

/-- A decimal number below 2^32, with white space around it in any layout. -/
def readCount? (extended : Bool) (text : List Char) : Option (Nat × List Char) :=
  let start := text.dropWhile isBlank
  let (digits, rest) :=
    takeSkipping extended (fun c => '0' ≤ c ∧ c ≤ '9') start.length start
  let count := number 10 digits
  if digits.isEmpty ∨ 0xFFFFFFFF < count then none
  else
    some (count, (takeSkipping extended isBlank rest.length rest).2)

end Descent.Regex.Text
