/-!
# Shortest decimals

The decimal with the fewest digits that reads back as a given float, and of those the nearest. A
positive float is a significand times a power of two; the reals that round to it lie between the
midpoints to its neighbours, the midpoints themselves included when the significand is even. A
decimal with some number of digits lies in that range only if one of the two neighbours of the
float on the grid of such decimals does.
-/

namespace Descent.Decimal

/-- A positive float as `significand * 2 ^ exponent`, with the bounds of the reals that round to it
counted in quarters of the last place. -/
structure Binary where
  significand : Nat
  exponent : Int
  /-- The power of two at which the floats below lie closer together. -/
  isPower : Bool

/-- The parts of the bits of a positive finite float. -/
def Binary.ofBits (bits : Nat) : Binary :=
  let fraction := bits % hidden
  let biased := bits / hidden % 0x800
  if biased = 0 then ⟨fraction, -1074, false⟩
  else ⟨fraction + hidden, Int.ofNat biased - 1075, fraction = 0 ∧ 1 < biased⟩
where
  /-- The bit above the fraction, which is not stored. -/
  hidden : Nat := 0x10000000000000

/-- A decimal `digits * 10 ^ exponent`. -/
structure Numeral where
  digits : Nat
  exponent : Int
deriving DecidableEq, Repr

/-- A float, the bounds around it and the grid of decimals, all multiplied by one number so that
they are whole. -/
structure Grid where
  value : Nat
  low : Nat
  high : Nat
  /-- The distance of neighbours on the grid. -/
  unit : Nat
  inclusive : Bool

/-- The grid of the multiples of `10 ^ e`. -/
def Grid.ofExponent (b : Binary) (e : Int) : Grid :=
  let q := b.exponent - 2
  let scale := Nat.pow 2 q.toNat * Nat.pow 10 (-e).toNat
  { value := 4 * b.significand * scale
    low := (4 * b.significand - if b.isPower then 1 else 2) * scale
    high := (4 * b.significand + 2) * scale
    unit := Nat.pow 2 (-q).toNat * Nat.pow 10 e.toNat
    inclusive := b.significand % 2 = 0 }

/-- Whether a point of the grid rounds to the float. -/
def Grid.admits (g : Grid) (n : Nat) : Bool :=
  let x := n * g.unit
  if g.inclusive then g.low ≤ x && x ≤ g.high else g.low < x && x < g.high

/-- The point of the grid that rounds to the float, the nearer one if both neighbours do. -/
def Grid.nearest? (g : Grid) : Option Nat :=
  let below := g.value / g.unit
  let above := below + 1
  let lower := g.admits below && below != 0
  let upper := g.admits above
  let nearer := 2 * g.value < (below + above) * g.unit
    || (2 * g.value == (below + above) * g.unit && below % 2 == 0)
  if lower && (nearer || !upper) then some below
  else if upper then some above
  else none

/-- The first exponent, going down, whose grid has a point that rounds to the float. -/
def shortestFrom (b : Binary) : Nat → Int → Numeral
  | 0, e => ⟨b.significand, e⟩
  | fuel + 1, e =>
    match (Grid.ofExponent b e).nearest? with
    | some n => ⟨n, e⟩
    | none => shortestFrom b fuel (e - 1)

/-- The shortest decimal for the bits of a positive finite float. -/
def shortest (bits : Nat) : Numeral := shortestFrom (Binary.ofBits bits) 660 310

/-- Drops zeros at the end of the digits. -/
def Numeral.trim : Nat → Numeral → Numeral
  | 0, d => d
  | fuel + 1, d =>
    if d.digits ≠ 0 ∧ d.digits % 10 = 0 then Numeral.trim fuel ⟨d.digits / 10, d.exponent + 1⟩
    else d

/-- How a positive decimal is written: with a point, unless the number is very large or very small;
then with the exponent of its first digit. -/
def Numeral.text (d : Numeral) : List Char :=
  let d := d.trim 400
  let digits := Nat.toDigits 10 d.digits
  let point := digits.length + d.exponent
  if 0 ≤ d.exponent ∧ point ≤ 16 then
    digits ++ List.replicate d.exponent.toNat '0' ++ ['.', '0']
  else if 0 < point ∧ point ≤ 16 then
    digits.take point.toNat ++ '.' :: digits.drop point.toNat
  else if -5 < point ∧ point ≤ 0 then
    ['0', '.'] ++ List.replicate (-point).toNat '0' ++ digits
  else
    let power := point - 1
    let tail := (if power < 0 then '-' else '+') :: Nat.toDigits 10 power.natAbs
    match digits with
    | [d] => d :: 'e' :: tail
    | d :: rest => d :: '.' :: rest ++ 'e' :: tail
    | [] => tail

/-- The text of a finite float, a point or an exponent always in it. -/
def floatText (x : Float) : String :=
  let bits := x.toBits.toNat
  let signBit := 0x8000000000000000
  let sign := if signBit ≤ bits then ['-'] else []
  let magnitude := bits % signBit
  String.ofList (sign ++ if magnitude = 0 then ['0', '.', '0'] else (shortest magnitude).text)

end Descent.Decimal
