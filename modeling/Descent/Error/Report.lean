import Descent.Error

/-!
# Words for errors

The one place where errors become text. A report has the message, a code, perhaps a hint, and
labels that point at bytes of the text.
-/

namespace Descent

/-- A note on a range of bytes. -/
structure Label where
  text : String
  span : Span
deriving DecidableEq, Repr

/-- What is shown of an error. -/
structure Report where
  message : String
  code : Option String
  help : Option String
  labels : List Label
deriving DecidableEq, Repr

/-- The wording of a reason. -/
def Reason.message : Reason → String
  | unexpectedToken text => "unexpected token '" ++ text ++ "'"
  | unexpectedEnd => "unexpected end of input"
  | unmatched text => "unable to parse '" ++ text ++ "'"
  | expected name (some found) => "expected " ++ name ++ ", found '" ++ found ++ "'"
  | expected name none => "expected " ++ name ++ ", found end of input"
  | undefined => "rule used before it was defined"
  | custom message => message

namespace ParseError

/-- The reason, and the place if there is one. -/
def message (e : ParseError) : String :=
  match e.position with
  | some p => e.reason.message ++ " at " ++ p.describe
  | none => e.reason.message

def report (e : ParseError) : Report where
  message := e.message
  code := some "ravel::parse"
  help := none
  labels := e.span.toList.map fun span => ⟨"here", span⟩

end ParseError

namespace LexError

def message (e : LexError) : String :=
  "unexpected token '" ++ e.text ++ "' at " ++ e.position.describe

def report (e : LexError) : Report where
  message := e.message
  code := some "ravel::lex"
  help := some "no token pattern matches this text"
  labels := [⟨"unrecognized", e.span⟩]

end LexError

namespace Error

/-- The kind that an invalid pattern is reported against. -/
def patternKind? : Error → Option String
  | pattern kind => some kind
  | alternation => some "<alternation>"
  | _ => none

/-- The report on an error of the lexer's definition. -/
def patternReport (kind : String) : Report where
  message := "invalid pattern for token " ++ kind
  code := some "ravel::pattern"
  help := none
  labels := []

def report : Error → Report
  | pattern kind => patternReport kind
  | alternation => patternReport "<alternation>"
  | lex e => e.report
  | parse e => e.report
  | trailing found position span =>
    { message := "unexpected token '" ++ found ++ "' at " ++ position.describe
      code := some "ravel::trailing_input"
      help := some "the grammar matched only a prefix of the input"
      labels := [⟨"unconsumed input starts here", span⟩] }

end Error

end Descent
