import Descent.Unicode.Derived
import Descent.Unicode.Recent

/-!
# Quoted text

A text between double quotes, in which quotes, backslashes and characters that cannot be seen are
escaped.
-/

namespace Descent

/-- The characters without a shape of their own: controls and blanks, marks that would join the
character before them, and what may be ignored. -/
def shapeless : Unicode.Property :=
  .unions
    [.tables [Unicode.control, Unicode.format, Unicode.privateUse],
     .separator,
     .without .graphemeExtend .letter,
     .defaultIgnorable]

/-- Whether a character is shown by its number: it has no shape, or is not assigned at all. -/
def isUnseen (c : Char) : Bool :=
  c != ' ' &&
    (shapeless.holds c
      || !(Unicode.Property.assigned.holds c || Unicode.covers Unicode.recentVisible c.toNat))

/-- One character inside quotes. -/
def quotedChar (c : Char) : List Char :=
  match c with
  | '\x00' => ['\\', '0']
  | '\t' => ['\\', 't']
  | '\r' => ['\\', 'r']
  | '\n' => ['\\', 'n']
  | '"' => ['\\', '"']
  | '\\' => ['\\', '\\']
  | c =>
    if 0x20 ≤ c.toNat ∧ c.toNat < 0x7F then [c]
    else if isUnseen c then
      ['\\', 'u', '\x7b'] ++ Nat.toDigits 16 c.toNat ++ ['\x7d']
    else [c]

/-- A text in double quotes. -/
def quoted (s : String) : String :=
  String.ofList (['"'] ++ s.toList.flatMap quotedChar ++ ['"'])

end Descent
