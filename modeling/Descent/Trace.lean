import Descent.Error.Report
import Descent.Text.Quoted

/-!
# The trace of a run

Lexers, rules and parsers note what they do. The notes are part of a run's result; they are kept as
events and put into words only here.
-/

namespace Descent

/-- Kinds of tokens that can be shown. -/
class TokenKind (κ : Type) where
  name : κ → String

/-- A text may serve as a kind, and is its own name. -/
instance : TokenKind String := ⟨id⟩

/-- How much an event matters. -/
inductive Level where
  | debug
  | trace
deriving DecidableEq, Repr

namespace Level

def name : Level → String
  | debug => "DEBUG"
  | trace => "TRACE"

end Level

/-- Something worth a note. -/
inductive Event (κ : Type) where
  | lexerBuilt (classes : Nat)
  | lexed (kind : κ) (text : String) (position : Position)
  | parsing (tokens : Nat)
  /-- The root rule matched and left tokens over. -/
  | stopped (reached total : Nat)
  | trying (name : String) (cursor : Nat)
  | matched (name : String) (first last : Nat)
  /-- A named rule failed in the place of its first token. -/
  | missed (name : String) (cursor : Nat)
  /-- A named rule failed further on, or with a cut. -/
  | failed (name : String) (failure : Failure)
  | alternativeFailed (index : Nat) (error : ParseError)
  | alternativeCut (index : Nat) (error : ParseError)
  /-- A cut was taken for absence. -/
  | cutAbsorbed (error : ParseError)
  | itemFailed (count : Nat) (delimiter : κ) (error : ParseError)
deriving DecidableEq, Repr

namespace Event

variable {κ : Type}

def level : Event κ → Level
  | lexerBuilt _ | parsing _ | stopped _ _ => .debug
  | _ => .trace

/-- The words for an event. -/
def message [TokenKind κ] : Event κ → String
  | lexerBuilt n => s!"lexer built with {n} token definitions"
  | lexed kind text p =>
    "lexed " ++ TokenKind.name kind ++ " " ++ quoted text ++ " at " ++ p.describe
  | parsing n => s!"parsing {n} tokens"
  | stopped reached total => s!"root matched {reached} of {total} tokens"
  | trying name cursor => name ++ s!": trying at token {cursor}"
  | matched name first last => name ++ s!": matched tokens {first}..{last}"
  | missed name cursor => name ++ s!": no match at token {cursor}"
  | failed name failure =>
    name ++ ": failed (cut: " ++ (if failure.isCut then "true" else "false") ++ "): "
      ++ failure.error.message
  | alternativeFailed index e => s!"alternative {index} failed, backtracking: " ++ e.message
  | alternativeCut index e => s!"alternative {index} committed and failed: " ++ e.message
  | cutAbsorbed e => "optional absorbed a cut: " ++ e.message
  | itemFailed count delimiter e =>
    s!"list item {count} failed after " ++ TokenKind.name delimiter ++ ": " ++ e.message

end Event

end Descent
