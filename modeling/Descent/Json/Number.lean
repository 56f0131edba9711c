import Descent.Json.Fault

/-!
# Numbers in a JSON text

Digits are gathered into a significand of 64 bits; digits beyond it only count towards the
exponent. A number without fraction or exponent stays an integer if it fits 64 bits, with or
without a sign, and is not a negative zero. Every other number is its significand, rounded to a
float and then once multiplied or divided by a power of ten.
-/

namespace Descent.Json

/-- A number as read. -/
inductive Number where
  | int (n : Int)
  | float (x : Float)

/-- The largest significand, and the largest integer. -/
def maxSignificand : Nat := 0xFFFFFFFFFFFFFFFF

/-- The smallest integer has this magnitude. -/
def maxNegative : Nat := 0x8000000000000000

/-- The value of a decimal digit. -/
def decimal? (c : Char) : Option Nat :=
  if '0' ≤ c ∧ c ≤ '9' then some (c.toNat - '0'.toNat) else none

def isDecimal (c : Char) : Bool := '0' ≤ c && c ≤ '9'

/-- Appends digits to a number while it stays within a limit. The result has the number, how many
digits it took, and the rest of the text. -/
def takeDigits (limit : Nat) (n : Nat) : List Char → Nat × Nat × List Char
  | [] => (n, 0, [])
  | c :: rest =>
    match decimal? c with
    | some d =>
      if n * 10 + d ≤ limit then
        let (m, count, left) := takeDigits limit (n * 10 + d) rest
        (m, count + 1, left)
      else (n, 0, c :: rest)
    | none => (n, 0, c :: rest)

/-- A power of ten as a float. -/
def powerOfTen (n : Nat) : Float := Float.ofScientific 1 false n

/-- Multiplies by a power of ten, or divides for a negative exponent. Beyond the powers that a float
can hold, numbers go down step by step until they vanish, and nothing but zero can go up. -/
def scale? : Nat → Float → Int → Option Float
  | 0, x, _ => some x
  | fuel + 1, x, e =>
    if e.natAbs ≤ 308 then
      if 0 ≤ e then
        let y := x * powerOfTen e.natAbs
        if y.isInf then none else some y
      else some (x / powerOfTen e.natAbs)
    else if x == 0 then some x
    else if 0 ≤ e then none
    else scale? fuel (x / powerOfTen 308) (e + 308)

/-- The float with a sign, a significand and a decimal exponent. -/
def assemble (positive : Bool) (significand : Nat) (exponent : Int) (rest : List Char) :
    Except Fault (Number × List Char) :=
  match scale? (exponent.natAbs + 1) (Float.ofNat significand) exponent with
  | some x => .ok (.float (if positive then x else -x), rest)
  | none => stopAt .numberOutOfRange rest

/-- The largest exponent that is read digit by digit. -/
def maxExponent : Nat := 0x7FFFFFFF

/-- The exponent of a number, behind its letter; `start` is the exponent so far. -/
def readExponent (positive : Bool) (significand : Nat) (start : Int) (text : List Char) :
    Except Fault (Number × List Char) :=
  let (up, digits) := match text with
    | '+' :: rest => (true, rest)
    | '-' :: rest => (false, rest)
    | text => (true, text)
  match digits with
  | [] => stopAt .endInValue []
  | c :: rest =>
    if isDecimal c then
      let (e, _, left) := takeDigits maxExponent 0 (c :: rest)
      match left with
      | d :: left =>
        if isDecimal d then
          -- the exponent is beyond every float
          if significand ≠ 0 ∧ up then stopAt .numberOutOfRange left
          else .ok (.float (if positive then 0.0 else -0.0), left.dropWhile isDecimal)
        else assemble positive significand (if up then start + e else start - e) (d :: left)
      | [] => assemble positive significand (if up then start + e else start - e) []
    else refuse .invalidNumber (c :: rest)

/-- An exponent if one follows, else the end of the number. -/
def readTail (positive : Bool) (significand : Nat) (exponent : Int) :
    List Char → Except Fault (Number × List Char)
  | 'e' :: rest | 'E' :: rest => readExponent positive significand exponent rest
  | rest => assemble positive significand exponent rest

/-- The fraction of a number, behind its point; `start` is the exponent so far. -/
def readFraction (positive : Bool) (significand : Nat) (start : Int) (text : List Char) :
    Except Fault (Number × List Char) :=
  match text with
  | [] => refuse .endInValue []
  | c :: _ =>
    if isDecimal c then
      let (n, count, rest) := takeDigits maxSignificand significand text
      readTail positive n (start - count) (rest.dropWhile isDecimal)
    else refuse .invalidNumber text

/-- An integer if it fits, else the nearest float. -/
def ofSignificand (positive : Bool) (significand : Nat) : Number :=
  if positive then .int significand
  else if 0 < significand ∧ significand ≤ maxNegative then .int (-significand)
  else .float (-(Float.ofNat significand))

/-- What follows the digits of the integer part. -/
def readRest (positive : Bool) (significand : Nat) :
    List Char → Except Fault (Number × List Char)
  | '.' :: rest => readFraction positive significand 0 rest
  | 'e' :: rest | 'E' :: rest => readExponent positive significand 0 rest
  | rest => .ok (ofSignificand positive significand, rest)

/-- A number, behind its sign. -/
def readNumber (positive : Bool) (text : List Char) : Except Fault (Number × List Char) :=
  match text with
  | [] => stopAt .endInValue []
  | '0' :: rest =>
    match rest with
    | c :: _ => if isDecimal c then refuse .invalidNumber rest else readRest positive 0 rest
    | [] => readRest positive 0 []
  | c :: rest =>
    if isDecimal c then
      let (n, _, left) := takeDigits maxSignificand 0 text
      let more := left.takeWhile isDecimal
      if more.isEmpty then readRest positive n left
      else
        match left.dropWhile isDecimal with
        | '.' :: rest => readFraction positive n more.length rest
        | rest => readTail positive n more.length rest
    else refuse .invalidNumber (c :: rest)

/-- Passes over a number, behind its sign, without asking for its value. -/
def skimNumber (text : List Char) : Except Fault (List Char) :=
  match text with
  | '0' :: c :: rest => if isDecimal c then refuse .invalidNumber (c :: rest) else tail (c :: rest)
  | c :: rest =>
    if isDecimal c then tail (rest.dropWhile isDecimal) else refuse .invalidNumber (c :: rest)
  | [] => stopAt .invalidNumber []
where
  exponent (text : List Char) : Except Fault (List Char) :=
    let digits := match text with
      | '+' :: rest | '-' :: rest => rest
      | text => text
    match digits with
    | c :: rest =>
      if isDecimal c then .ok (rest.dropWhile isDecimal) else refuse .invalidNumber (c :: rest)
    | [] => stopAt .invalidNumber []
  tail : List Char → Except Fault (List Char)
    | '.' :: rest =>
      let left := rest.dropWhile isDecimal
      if left.length = rest.length then refuse .invalidNumber left
      else
        match left with
        | 'e' :: rest | 'E' :: rest => exponent rest
        | rest => .ok rest
    | 'e' :: rest | 'E' :: rest => exponent rest
    | rest => .ok rest

end Descent.Json
