import Descent.Json.Decode
import Descent.Parser

/-!
# JSON documents

A grammar for JSON texts whose root is an object or an array. Strings and numbers are tokens; what
they denote is read from their text, and a text that denotes nothing makes its rule fail.
-/

namespace Descent.JsonDocument

/-- The kinds of tokens. -/
inductive Kind where
  | true
  | false
  | null
  | leftCurly
  | rightCurly
  | leftSquare
  | rightSquare
  | comma
  | colon
  | string
  | number
  | space
deriving DecidableEq, Repr

instance : TokenKind Kind where
  name
    | .true => "True"
    | .false => "False"
    | .null => "Null"
    | .leftCurly => "LCurly"
    | .rightCurly => "RCurly"
    | .leftSquare => "LSquare"
    | .rightSquare => "RSquare"
    | .comma => "Comma"
    | .colon => "Colon"
    | .string => "String"
    | .number => "Number"
    | .space => "Space"

/-- The pattern of strings: no raw quote or backslash, and escapes by letter or by four digits. -/
def stringPattern : String :=
  "\"(?:[^\\\\\"]|\\\\(?:[bfnrtv\"\\\\/]|u[0-9a-fA-F]\x7b4\x7d))*\""

/-- The pattern of numbers: no needless zero in front, a fraction and an exponent if need be. -/
def numberPattern : String := "-?(?:0|[1-9]\\d*)(?:\\.\\d+)?(?:[eE][+-]?\\d+)?"

/-- Words, marks, strings and numbers; white space is skipped. -/
def definitions : List (TokenDef Kind) :=
  [⟨.true, "true", Bool.false⟩,
   ⟨.false, "false", Bool.false⟩,
   ⟨.null, "null", Bool.false⟩,
   ⟨.leftCurly, "\\\x7b", Bool.false⟩,
   ⟨.rightCurly, "\\\x7d", Bool.false⟩,
   ⟨.leftSquare, "\\[", Bool.false⟩,
   ⟨.rightSquare, "\\]", Bool.false⟩,
   ⟨.comma, ",", Bool.false⟩,
   ⟨.colon, ":", Bool.false⟩,
   ⟨.string, stringPattern, Bool.false⟩,
   ⟨.number, numberPattern, Bool.false⟩,
   ⟨.space, "\\s+", Bool.true⟩]

def lexer : Lexer Kind := .ofDefs definitions

/-! ## What tokens denote -/

/-- The string that the text of a string token denotes. -/
def stringOf (text : String) : Except String String :=
  (Json.decode Json.string text.toList).mapError (Json.Fault.describe text.toList)

/-- The value that the text of a number token denotes. -/
def numberOf (text : String) : Except String Value :=
  (Json.parse text.toList).mapError (Json.Fault.describe text.toList)

/-- What the texts of string and number tokens denote. The grammar takes it as given. -/
structure Meaning where
  string : String → Except String String
  number : String → Except String Value

/-- Strings and numbers as JSON has them. -/
def Meaning.standard : Meaning := ⟨stringOf, numberOf⟩

/-! ## Grammar -/

/-- What the rules of the grammar yield. -/
inductive Part where
  /-- A token that matters only by being there. -/
  | mark
  | key (s : String)
  | value (v : Value)
  | member (key : String) (v : Value)
  /-- The contents of an array or an object, perhaps none. -/
  | contents (parts : List Part)

namespace Part

/-- A part as a value; marks and such have none. -/
def toValue : Part → Value
  | value v => v
  | _ => .null

/-- The value of a part, if it is one. -/
def value? : Part → Option Value
  | value v => some v
  | _ => none

/-- The member that a part is, if it is one. -/
def member? : Part → Option (String × Value)
  | member k v => some (k, v)
  | _ => none

/-- The parts inside. -/
def inside : Part → List Part
  | contents parts => parts
  | _ => []

end Part

def mark (kind : Kind) : Rule Kind Part := .token kind fun _ => .ok .mark

section

variable (meaning : Meaning)

/-- A string, as a key. -/
def string : Rule Kind Part := .token .string fun t => (meaning.string t.value).map Part.key

/-- A string, as a value. -/
def stringValue : Rule Kind Part :=
  .map (fun
    | .key s => .value (.str s)
    | part => part) (string meaning)

def number : Rule Kind Part := .token .number fun t => (meaning.number t.value).map Part.value

/-- A word that stands for one value. -/
def word (kind : Kind) (v : Value) : Rule Kind Part := .token kind fun _ => .ok (.value v)

/-- A key, a colon and a value; values are rule number 0. -/
def entry : Rule Kind Part :=
  .sequence [string meaning, mark .colon, .ref 0] fun
    | [.key k, _, .value v] => .ok (.member k v)
    | _ => .error ""

/-- Parts with commas between them in brackets, or nothing in brackets. -/
def bracketed (left right : Kind) (item : Rule Kind Part) (build : List Part → Value) :
    Rule Kind Part :=
  .sequence
    [mark left, .optional (.list item .comma .contents) (·.getD (.contents [])), mark right]
    fun parts => .ok (.value (build (parts.flatMap Part.inside)))

def object : Rule Kind Part :=
  .named "object" <|
    bracketed .leftCurly .rightCurly (entry meaning) fun parts =>
      .ofMembers (parts.filterMap Part.member?)

def array : Rule Kind Part :=
  .named "array" <|
    bracketed .leftSquare .rightSquare (.ref 0) fun parts => .arr (parts.filterMap Part.value?)

/-- Any value. -/
def anyValue : Rule Kind Part :=
  .named "value" <| .choice
    [stringValue meaning, number meaning, word .true (.bool Bool.true),
     word .false (.bool Bool.false), word .null .null, object meaning, array]

def grammar (policy : ErrorPolicy) : Grammar Kind Part := ⟨[some (anyValue meaning)], policy⟩

def parser (policy : ErrorPolicy) : Parser Kind Part :=
  ⟨lexer, grammar meaning policy, .named "object or array" (.choice [object meaning, array])⟩

/-- Parses a document with some meaning of strings and numbers, with the notes of the parse. -/
def runWith (policy : ErrorPolicy) (source : String) : Option (Parsed Kind Value) :=
  ((parser meaning policy).run source).map (·.map Part.toValue)

end

/-- Parses a document, with the notes of the parse. -/
def run : ErrorPolicy → String → Option (Parsed Kind Value) := runWith .standard

end Descent.JsonDocument
