/-!
# Runs of code points

The character tables of this folder are lists of runs. A run has a step, because in many scripts
capital and small letters take turns.
-/

namespace Descent.Unicode

/-- The code points `first`, `first + step`, …, `last`. -/
structure Run where
  first : Nat
  last : Nat
  step : Nat
deriving DecidableEq, Repr

namespace Run

/-- Whether a code point lies in the run. -/
def contains (run : Run) (code : Nat) : Bool :=
  run.first ≤ code && code ≤ run.last && (code - run.first) % run.step == 0

end Run

/-- Whether some run of a table in ascending order contains the code point; the search stops at the
first run that lies behind it. -/
def covers : List Run → Nat → Bool
  | [], _ => false
  | run :: rest, code =>
    if code < run.first then false else run.contains code || covers rest code

end Descent.Unicode
