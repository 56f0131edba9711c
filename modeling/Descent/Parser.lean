import Descent.Lexer
import Descent.Rule.Basic

/-!
# Parsers

A parser tokenizes a text and runs a rule over all of its tokens. A rule that matches only some of
them from the front is an error, which names the first token left over.
-/

namespace Descent

/-- A lexer, a grammar and the rule of the grammar to start with. -/
structure Parser (κ ν : Type) where
  lexer : Lexer κ
  grammar : Grammar κ ν
  root : Rule κ ν

/-- The result of a parse and the notes made on the way. -/
structure Parsed (κ ν : Type) where
  result : Except Error ν
  log : List (Event κ)

/-- The same parse with its value converted. -/
def Parsed.map {κ ν μ : Type} (f : ν → μ) (p : Parsed κ ν) : Parsed κ μ := ⟨p.result.map f, p.log⟩

namespace Parser

variable {κ ν : Type}

/-- The tokens of a text. -/
def tokens (p : Parser κ ν) (source : String) : Except Error (List (Token κ)) :=
  (p.lexer.tokenize source).mapError .lex

/-- The result of a run of the root rule over all tokens. -/
def conclude (ts : List (Token κ)) (s : Step κ ν) : Parsed κ ν :=
  match s.outcome with
  | .error failure => ⟨.error (.ofFailure failure), s.log⟩
  | .ok value =>
    match ts[s.cursor]? with
    | none => ⟨.ok value, s.log⟩
    | some t =>
      ⟨.error (.trailing t.value t.location.start t.span),
        s.log ++ [.stopped s.cursor ts.length]⟩

/-- Parses a text; `none` stands for a grammar that goes round in circles. -/
def run [DecidableEq κ] (p : Parser κ ν) (source : String) : Option (Parsed κ ν) :=
  let lexed := p.lexer.trace source
  match p.tokens source with
  | .error e => some ⟨.error e, lexed⟩
  | .ok ts =>
    (p.grammar.consume p.root ts .start).map fun s =>
      let parsed := conclude ts s
      { parsed with log := lexed ++ .parsing ts.length :: parsed.log }

/-- Parses a text. -/
def parse? [DecidableEq κ] (p : Parser κ ν) (source : String) : Option (Except Error ν) :=
  (p.run source).map (·.result)

end Parser

end Descent
