/-!
# Faults of a JSON text

Why a text is not JSON, and where. Places are counted in bytes. A fault keeps the rest of the text
at which it was noticed and the number of further bytes that the reader had looked at, which count
too; its line and column are those of the last byte seen.
-/

namespace Descent.Json

/-- What is wrong with a JSON text. -/
inductive Cause where
  | endInList
  | endInObject
  | endInString
  | endInValue
  | expectedColon
  | expectedListCommaOrEnd
  | expectedObjectCommaOrEnd
  | expectedIdent
  | expectedValue
  | invalidEscape
  | invalidNumber
  | numberOutOfRange
  | controlCharacter
  | keyMustBeString
  | loneSurrogate
  | unfinishedSurrogate
  | trailingComma
  | trailingCharacters
  /-- The text is JSON, but not of the kind asked for. -/
  | data (message : String)
deriving DecidableEq, Repr

/-- The three classes of causes. -/
inductive Category where
  /-- Well formed and of the wrong kind. -/
  | data
  /-- Malformed. -/
  | syntactic
  /-- Cut short. -/
  | ended
deriving DecidableEq, Repr

namespace Cause

def category : Cause → Category
  | endInList | endInObject | endInString | endInValue => .ended
  | data _ => .data
  | _ => .syntactic

/-- The words for a cause. -/
def message : Cause → String
  | endInList => "EOF while parsing a list"
  | endInObject => "EOF while parsing an object"
  | endInString => "EOF while parsing a string"
  | endInValue => "EOF while parsing a value"
  | expectedColon => "expected `:`"
  | expectedListCommaOrEnd => "expected `,` or `]`"
  | expectedObjectCommaOrEnd => "expected `,` or `\x7d`"
  | expectedIdent => "expected ident"
  | expectedValue => "expected value"
  | invalidEscape => "invalid escape"
  | invalidNumber => "invalid number"
  | numberOutOfRange => "number out of range"
  | controlCharacter => "control character (\\u0000-\\u001F) found while parsing a string"
  | keyMustBeString => "key must be a string"
  | loneSurrogate => "lone leading surrogate in hex escape"
  | unfinishedSurrogate => "unexpected end of hex escape"
  | trailingComma => "trailing comma"
  | trailingCharacters => "trailing characters"
  | data message => message

end Cause

/-- A fault: its cause, the text left when it was noticed, and how many bytes of that text had been
looked at. -/
structure Fault where
  cause : Cause
  rest : List Char
  ahead : Nat
deriving DecidableEq, Repr

/-- The bytes of a text. -/
def bytes (text : List Char) : List UInt8 := (String.ofList text).toUTF8.toList

namespace Fault

/-- The bytes of the text that had been seen. -/
def seen (text : List Char) (fault : Fault) : List UInt8 :=
  let whole := bytes text
  whole.take (whole.length - (bytes fault.rest).length + fault.ahead)

/-- The fault with its place: the line counted from one, and the column in bytes behind the last
line end. -/
def describe (text : List Char) (fault : Fault) : String :=
  let seen := fault.seen text
  let line := seen.count 0x0A + 1
  let column := (seen.reverse.takeWhile (· != 0x0A)).length
  fault.cause.message ++ s!" at line {line} column {column}"

end Fault

/-- A fault behind what has been taken. -/
def stopAt {α : Type} (cause : Cause) (rest : List Char) : Except Fault α :=
  .error ⟨cause, rest, 0⟩

/-- A fault at the next byte, which has been looked at. -/
def refuse {α : Type} (cause : Cause) (rest : List Char) : Except Fault α :=
  .error ⟨cause, rest, 1⟩

end Descent.Json
