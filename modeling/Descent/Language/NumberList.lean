import Descent.Parser
import Descent.Decimal.Literal

/-!
# Lists of numbers

Signed decimals between brackets, separated by commas: the smallest language with a list that may
be empty.
-/

namespace Descent.NumberList

/-- The kinds of tokens. -/
inductive Kind where
  | leftBracket
  | rightBracket
  | comma
  | number
  | word
  | space
deriving DecidableEq, Repr

instance : TokenKind Kind where
  name
    | .leftBracket => "LBracket"
    | .rightBracket => "RBracket"
    | .comma => "Comma"
    | .number => "Number"
    | .word => "Word"
    | .space => "Space"

/-- Brackets, commas, numbers and words; white space is skipped. -/
def definitions : List (TokenDef Kind) :=
  [⟨.leftBracket, "\\[", false⟩,
   ⟨.rightBracket, "\\]", false⟩,
   ⟨.comma, ",", false⟩,
   ⟨.number, "-?\\d+(?:\\.\\d+)?", false⟩,
   ⟨.word, "[A-Za-z]+", false⟩,
   ⟨.space, "\\s+", true⟩]

def lexer : Lexer Kind := .ofDefs definitions

/-- What the rules of the grammar yield. -/
inductive Part where
  /-- A bracket. -/
  | mark
  | number (x : Float)
  | numbers (xs : List Float)

namespace Part

/-- The numbers in a part. -/
def floats : Part → List Float
  | mark => []
  | number x => [x]
  | numbers xs => xs

end Part

/-- A number. Digits of other scripts are numbers to the lexer, and are refused here. -/
def number : Rule Kind Part :=
  .named "number" <| .token .number fun t =>
    match Decimal.float? t.value.toList with
    | some x => .ok (.number x)
    | none => .error "invalid float literal"

/-- A token that matters only by being there. -/
def mark (kind : Kind) : Rule Kind Part := .token kind fun _ => .ok .mark

/-- A list between brackets. -/
def root : Rule Kind Part :=
  .sequence
    [mark .leftBracket,
     .optional (.list number .comma fun parts => .numbers (parts.flatMap Part.floats))
       (·.getD (.numbers [])),
     mark .rightBracket]
    fun parts => .ok (.numbers (parts.flatMap Part.floats))

def parser : Parser Kind Part := ⟨lexer, ⟨[], .entry⟩, root⟩

/-- Parses a list, with the notes of the parse. -/
def run (source : String) : Option (Parsed Kind (List Float)) :=
  (parser.run source).map (·.map Part.floats)

end Descent.NumberList
