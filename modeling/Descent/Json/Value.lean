/-!
# JSON values

The trees that the example grammars build and that folds walk. The members of an object are kept in
strictly ascending order of their keys, whatever order they arrived in; a later member takes the
place of an earlier one with the same key. Keys compare character by character, which orders them
as their bytes do.

Integers and floats are different values, so `1` and `1.0` differ.
-/

namespace Descent

/-- A JSON value. -/
inductive Value where
  | null
  | bool (b : Bool)
  | int (n : Int)
  | float (x : Float)
  | str (s : String)
  | arr (items : List Value)
  | obj (members : List (String × Value))
deriving Inhabited

namespace Value

/-! ## Objects -/

/-- Puts a member among members in ascending order, in the place of one with the same key. -/
def insertMember (key : String) (value : Value) : List (String × Value) → List (String × Value)
  | [] => [(key, value)]
  | member :: rest =>
    if key < member.1 then (key, value) :: member :: rest
    else if key = member.1 then (key, value) :: rest
    else member :: insertMember key value rest

/-- The members in ascending order, the last of equal keys winning. -/
def sortMembers (members : List (String × Value)) : List (String × Value) :=
  members.foldl (fun sorted m => insertMember m.1 m.2 sorted) []

/-- The object with some members. -/
def ofMembers (members : List (String × Value)) : Value := obj (sortMembers members)

/-- The member of an object under a key. -/
def get? (v : Value) (key : String) : Option Value :=
  match v with
  | obj members => (members.find? (·.1 == key)).map (·.2)
  | _ => none

/-- Whether keys ascend strictly. -/
def KeysAscend (members : List (String × Value)) : Prop :=
  members.Pairwise fun a b => a.1 < b.1

mutual

/-- Whether in a value and everywhere inside it the keys of objects ascend strictly. -/
def Ordered : Value → Prop
  | arr items => OrderedItems items
  | obj members => KeysAscend members ∧ OrderedMembers members
  | _ => True

def OrderedItems : List Value → Prop
  | [] => True
  | item :: rest => item.Ordered ∧ OrderedItems rest

def OrderedMembers : List (String × Value) → Prop
  | [] => True
  | (_, value) :: rest => value.Ordered ∧ OrderedMembers rest

end

/-! ## Scalars -/

/-- The value of a float: JSON has no word for one that is infinite or not a number. -/
def ofFloat (x : Float) : Value := if x.isFinite then float x else null

/-- The text of a string value. -/
def text? : Value → Option String
  | str s => some s
  | _ => none

/-- The number of a numeric value, rounded to a float. -/
def float? : Value → Option Float
  | int n => some (Float.ofInt n)
  | float x => some x
  | _ => none

/-- The integer of a value that fits 64 bits with a sign. -/
def int64? : Value → Option Int
  | int n => if -0x8000000000000000 ≤ n ∧ n < 0x8000000000000000 then some n else none
  | _ => none

/-- The sum of the integers of 64 bits among some values. -/
def sum (values : List Value) : Int := (values.filterMap int64?).foldl (· + ·) 0

/-- The name of a value's type. -/
def typeName : Value → String
  | null => "null"
  | bool _ => "bool"
  | int _ | float _ => "number"
  | str _ => "string"
  | arr _ => "array"
  | obj _ => "object"

/-! ## Equality -/

mutual

/-- Whether two values are equal. Floats compare as numbers, so the two zeros are equal. -/
def equals : Value → Value → Bool
  | null, null => true
  | bool a, bool b => a == b
  | int a, int b => a == b
  | float a, float b => a == b
  | str a, str b => a == b
  | arr a, arr b => itemsEqual a b
  | obj a, obj b => membersEqual a b
  | _, _ => false

def itemsEqual : List Value → List Value → Bool
  | [], [] => true
  | a :: as, b :: bs => a.equals b && itemsEqual as bs
  | _, _ => false

def membersEqual : List (String × Value) → List (String × Value) → Bool
  | [], [] => true
  | (k, a) :: as, (l, b) :: bs => k == l && a.equals b && membersEqual as bs
  | _, _ => false

end

end Value

end Descent
