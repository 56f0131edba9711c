/-!
# Decimal literals

Reading a decimal numeral of ASCII digits as the nearest float.
-/

namespace Descent.Decimal

def isDigit (c : Char) : Bool := '0' ≤ c && c ≤ '9'

/-- The number that some digits denote. -/
def valueOf (digits : List Char) : Nat :=
  digits.foldl (fun n c => n * 10 + (c.toNat - '0'.toNat)) 0

/-- The float nearest to a numeral without a sign: digits, perhaps with a point among them. -/
def unsigned? (text : List Char) : Option Float :=
  match text.span isDigit with
  | (whole, []) => if whole.isEmpty then none else some (Float.ofNat (valueOf whole))
  | (whole, '.' :: fraction) =>
    if fraction.all isDigit ∧ ¬(whole.isEmpty ∧ fraction.isEmpty) then
      some (Float.ofScientific (valueOf (whole ++ fraction)) true fraction.length)
    else none
  | _ => none

/-- The float nearest to a numeral, perhaps with a sign. -/
def float? (text : List Char) : Option Float :=
  match text with
  | '-' :: rest => (unsigned? rest).map fun x => -x
  | '+' :: rest => unsigned? rest
  | text => unsigned? text

end Descent.Decimal
