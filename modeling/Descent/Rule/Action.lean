import Descent.Json.Value

/-!
# Actions

Stock ways to make one JSON value of the values that a rule has gathered. An action may refuse its
values with a message.
-/

namespace Descent

/-- What to make of a list of values. -/
inductive Action where
  /-- The values as an array. -/
  | collect
  /-- The strings in the values, joined. -/
  | text
  | const (value : Value)
  /-- The value at an index, or null. -/
  | pick (index : Nat)
  /-- A tag and the array of the values. -/
  | tag (label : Value)
  | count
  /-- The sum of the integers among the values, added to a number. -/
  | sum (start : Int)
  /-- The joined strings as a number of 32 bits without a sign. -/
  | number32
  /-- Always refuses. -/
  | reject (message : String)
  /-- The joined strings, refused if they are a given text. -/
  | rejectText (text message : String)
  /-- The values as an array, refused if there are more than a given number. -/
  | rejectOver (limit : Nat) (message : String)

namespace Action

mutual

/-- The strings in a value, arrays included, joined. -/
def textOf : Value → String
  | .str s => s
  | .arr items => textOfAll items
  | _ => ""

def textOfAll : List Value → String
  | [] => ""
  | value :: rest => textOf value ++ textOfAll rest

end

/-- Reads the rest of a number of 32 bits, digit by digit: a character that is no digit is noticed
before the number has grown too large. -/
def digits32 (n : Nat) : List Char → Except String Nat
  | [] => .ok n
  | c :: rest =>
    if '0' ≤ c ∧ c ≤ '9' then
      let m := n * 10 + (c.toNat - '0'.toNat)
      if m ≤ 0xFFFFFFFF then digits32 m rest else .error "number too large to fit in target type"
    else .error "invalid digit found in string"

/-- Reads a number of 32 bits without a sign; a plus in front is allowed, unless it stands alone. -/
def number32Of (text : List Char) : Except String Nat :=
  match text with
  | [] => .error "cannot parse integer from empty string"
  | '+' :: c :: rest => digits32 0 (c :: rest)
  | text => digits32 0 text

/-- Makes a value of some values, or refuses them. -/
def apply (action : Action) (values : List Value) : Except String Value :=
  match action with
  | collect => .ok (.arr values)
  | text => .ok (.str (textOfAll values))
  | const value => .ok value
  | pick index => .ok (values[index]?.getD .null)
  | tag label => .ok (.arr [label, .arr values])
  | count => .ok (.int values.length)
  | sum start => .ok (.int (start + Value.sum values))
  | number32 => (number32Of (textOfAll values).toList).map fun n => .int n
  | reject message => .error message
  | rejectText refused message =>
    if textOfAll values = refused then .error message else .ok (.str (textOfAll values))
  | rejectOver limit message =>
    if limit < values.length then .error message else .ok (.arr values)

end Action

end Descent
