import Descent.Rule.Basic

/-!
# Raw rules

Rules that are given as functions of the tokens and the cursor. `failing` may move its cursor
although it fails, which a well-behaved rule does not do.
-/

namespace Descent.Rule

variable {κ ν : Type}

/-- Any one token. -/
def anyToken (build : Token κ → ν) : Rule κ ν :=
  raw fun ts p =>
    match ts[p]? with
    | some t => .ok (build t) (p.advance 1)
    | none => .fail (.backtrack (.unexpected ts p)) p

/-- The cursor itself, without taking anything. -/
def here (build : Cursor → ν) : Rule κ ν := raw fun _ p => .ok (build p) p

/-- Passes over a number of tokens, whether they are there or not, and gives the new cursor. -/
def move (count : Nat) (build : Cursor → ν) : Rule κ ν :=
  raw fun _ p => .ok (build (p.advance count)) (p.advance count)

/-- Fails with a message of its own, without a place or at the token some steps ahead, and leaves
the cursor advanced by `moved`. -/
def failing (isCut : Bool) (message : String) (ahead : Option Nat) (moved : Nat) : Rule κ ν :=
  raw fun ts p =>
    let error := match ahead with
      | none => ParseError.ofReason (.custom message)
      | some n => .located (.custom message) ts[p.advance n]?
    .fail (if isCut then .cut error else .backtrack error) (p.advance moved)

end Descent.Rule
