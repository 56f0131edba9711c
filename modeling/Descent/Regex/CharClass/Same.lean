import Descent.Regex.CharClass

/-!
# Classes with the same members

A class can be written in many ways. Its edges are code points between which membership does not
change, so two classes are the same if they agree at the edges of both.
-/

namespace Descent

namespace Unicode

/-- Where membership in a table may change. -/
def Run.edges (run : Run) : List Nat :=
  if run.step = 1 then [run.first, run.last + 1]
  else
    (List.range (run.last - run.first + 1)).flatMap fun i =>
      if i % run.step = 0 then [run.first + i, run.first + i + 1] else []

/-- Where membership in a property may change. -/
def Property.edges : Property → List Nat
  | table runs => runs.flatMap Run.edges
  | union a b | without a b => a.edges ++ b.edges
  | complement a => a.edges

/-- Where the variants of characters by case may change. -/
def foldEdges : List Nat :=
  foldRuns.flatMap fun run =>
    run.source.edges
      ++ (Run.mk run.target (run.target + (run.source.last - run.source.first))
        run.source.step).edges

end Unicode

namespace CharClass

/-- Where membership in a class may change. -/
def edges : CharClass → List Nat
  | none => []
  | range first last => [first.toNat, last.toNat + 1]
  | property p => p.edges
  | union a b | inter a b | diff a b | symmDiff a b => a.edges ++ b.edges
  | complement a => a.edges
  | folded a => a.edges ++ Unicode.foldEdges

/-- The code points that stand for all others: the first ones below and above the surrogates, and
the edges. -/
def samples (a b : CharClass) : List Nat := 0 :: 0xE000 :: (a.edges ++ b.edges)

/-- Whether two classes have the same members. -/
def same (a b : CharClass) : Bool :=
  a = b || (samples a b).all fun code => a.holds (Char.ofNat code) == b.holds (Char.ofNat code)

end CharClass

end Descent
