import Descent.Token

/-!
# What can go wrong

Errors are kept as causes; the words for them stand in `Descent.Error.Report`. A parse error knows
where it arose: at a token, or behind the last one, in which case it has neither position nor span.

While a grammar runs, a failure is one of two kinds. After an ordinary failure an enclosing choice
tries its next alternative; a cut says that the grammar has committed itself, and ends the search.
-/

namespace Descent

/-! ## Parse errors -/

/-- Why a rule did not match. -/
inductive Reason where
  /-- No alternative wanted this token. -/
  | unexpectedToken (text : String)
  /-- No alternative wanted the text to end. -/
  | unexpectedEnd
  /-- These tokens are not of the kinds asked for. -/
  | unmatched (text : String)
  /-- A named rule met this token, or the end of the text, in the place of its first token. -/
  | expected (name : String) (found : Option String)
  /-- A reference leads nowhere. -/
  | undefined
  /-- A reason in a grammar's own words. -/
  | custom (message : String)
deriving DecidableEq, Repr

/-- A failure at some place of a token list. -/
structure ParseError where
  reason : Reason
  position : Option Position
  span : Option Span
deriving DecidableEq, Repr

namespace ParseError

variable {κ : Type}

/-- An error without a place. -/
def ofReason (reason : Reason) : ParseError := ⟨reason, none, none⟩

/-- An error at a token, or at the end of the text when there is none. -/
def located (reason : Reason) (token : Option (Token κ)) : ParseError :=
  ⟨reason, token.map (·.location.start), token.map (·.span)⟩

/-- The complaint that the token at an index was not expected. -/
def unexpected (tokens : List (Token κ)) (index : Nat) : ParseError :=
  match tokens[index]? with
  | some token => located (.unexpectedToken token.value) (some token)
  | none => ofReason .unexpectedEnd

/-- Whether the error arose behind the last token. -/
def isAtEnd (e : ParseError) : Bool := e.position.isNone

/-- Whether an error lies strictly further on than another; the end lies further than any token. -/
def isFurtherThan (e other : ParseError) : Bool :=
  match e.position, other.position with
  | none, some _ => true
  | some mine, some theirs => theirs.isBefore mine
  | _, none => false

end ParseError

/-! ## Failures of a run -/

/-- How a rule failed. -/
inductive Failure where
  /-- An enclosing choice may go on. -/
  | backtrack (error : ParseError)
  /-- The grammar has committed itself. -/
  | cut (error : ParseError)
deriving DecidableEq, Repr

namespace Failure

/-- The error behind a failure. -/
def error : Failure → ParseError
  | backtrack e => e
  | cut e => e

def isCut : Failure → Bool
  | backtrack _ => false
  | cut _ => true

/-- The cut with the same error. -/
def toCut (f : Failure) : Failure := cut f.error

/-- The ordinary failure with the same error. -/
def toBacktrack (f : Failure) : Failure := backtrack f.error

end Failure

/-! ## Errors of a whole run -/

/-- A stretch of text that no pattern matches. -/
structure LexError where
  text : String
  position : Position
  span : Span
deriving DecidableEq, Repr

/-- What a caller is told. -/
inductive Error where
  /-- The pattern of this kind of token is malformed. -/
  | pattern (kind : String)
  /-- The patterns are well formed one by one and do not go together. -/
  | alternation
  | lex (error : LexError)
  | parse (error : ParseError)
  /-- The grammar matched and left this token over. -/
  | trailing (found : String) (position : Position) (span : Span)
deriving DecidableEq, Repr

namespace Error

/-- The error that a failed run ends with. -/
def ofFailure (f : Failure) : Error := parse f.error

end Error

end Descent
