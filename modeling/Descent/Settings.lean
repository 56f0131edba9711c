import Descent.Json.Decode
import Descent.Rule.Consumer

/-!
# Settings and positions as JSON

How grammars are configured from a text, and how settings, positions and locations are written.
-/

namespace Descent

namespace ErrorPolicy

/-- The names of the policies. -/
def names : List (String × ErrorPolicy) := [("entry", entry), ("furthest", furthest)]

def name : ErrorPolicy → String
  | entry => "entry"
  | furthest => "furthest"

def decoder : Json.Decoder ErrorPolicy := Json.choice names

def toValue (p : ErrorPolicy) : Value := .str p.name

end ErrorPolicy

/-- How a grammar is to behave. -/
structure Settings where
  policy : ErrorPolicy
deriving DecidableEq, Repr

namespace Settings

/-- Errors are reported at the place of the choice. -/
def default : Settings := ⟨.entry⟩

/-- What is left out has its default; an unknown member is refused. -/
def decoder : Json.Decoder Settings :=
  Json.structured "struct ParseOptions" .refused ["error-policy"] ErrorPolicy.decoder
    fun _ found =>
      match found with
      | (_, policy) :: _ => .ok ⟨policy⟩
      | [] => .ok default

def toValue (s : Settings) : Value := .ofMembers [("error-policy", s.policy.toValue)]

end Settings

namespace Position

def decoder : Json.Decoder Position :=
  Json.structured "struct Position" .ignored ["line", "col"] Json.nat fun form found =>
    (Json.bothFields "struct Position" "line" "col" form found).map fun (line, col) => ⟨line, col⟩

def toValue (p : Position) : Value := .ofMembers [("line", .int p.line), ("col", .int p.col)]

end Position

namespace Location

def decoder : Json.Decoder Location :=
  Json.structured "struct Location" .ignored ["start", "end"] Position.decoder fun form found =>
    (Json.bothFields "struct Location" "start" "end" form found).map
      fun (start, stop) => ⟨start, stop⟩

def toValue (l : Location) : Value :=
  .ofMembers [("start", l.start.toValue), ("end", l.stop.toValue)]

end Location

end Descent
