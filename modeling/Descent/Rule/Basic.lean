import Descent.Rule.Consumer

/-!
# Rules and grammars

A rule is a term whose values all have one type. It may refer to other rules by number, itself
included; a grammar says what the numbers stand for, and a number without a definition is a
reference that leads nowhere.

`Grammar.run` gives a rule its meaning with some fuel, which bounds how deep rules nest. More fuel
never changes an answer. A run without left recursion does not nest deeper than every rule once for
each cursor, which is the fuel of `Grammar.consume`.
-/

namespace Descent

/-- A rule over tokens with kinds of type `κ`, with values of type `ν`. -/
inductive Rule (κ ν : Type) where
  /-- Tokens of exactly these kinds. -/
  | tokens (kinds : List κ) (build : List (Token κ) → Except String ν)
  /-- Rules one after another. -/
  | sequence (parts : List (Rule κ ν)) (build : List ν → Except String ν)
  /-- The first rule that matches. -/
  | choice (alternatives : List (Rule κ ν))
  /-- A rule or nothing; `wrap` makes one value of either. -/
  | optional (body : Rule κ ν) (wrap : Option ν → ν)
  /-- A rule without taking its tokens. -/
  | lookahead (body : Rule κ ν)
  /-- Items with delimiters between them; `wrap` makes one value of them. -/
  | list (item : Rule κ ν) (delimiter : κ) (wrap : List ν → ν)
  /-- A rule, every failure of which is a cut. -/
  | cut (body : Rule κ ν)
  /-- A rule with a name for its errors. -/
  | label (name : String) (body : Rule κ ν)
  /-- A rule with its value converted. -/
  | map (f : ν → ν) (body : Rule κ ν)
  /-- The rule that a grammar gives for a number. -/
  | ref (id : Nat)
  /-- A function of tokens and cursor. A well-behaved one leaves the cursor alone when it fails. -/
  | raw (consume : List (Token κ) → Cursor → Step κ ν)

namespace Rule

variable {κ ν : Type}

/-- One token of a kind. -/
def token (kind : κ) (build : Token κ → Except String ν) : Rule κ ν :=
  tokens [kind] fun run =>
    match run with
    | t :: _ => build t
    | [] => .error ""

/-- Gives a rule a name, in the place of one that it has. -/
def named (name : String) : Rule κ ν → Rule κ ν
  | label _ body => label name body
  | rule => label name rule

/-- The name of a rule. -/
def name? : Rule κ ν → Option String
  | label name _ => some name
  | _ => none

/-- How a rule is shown. -/
def describe (rule : Rule κ ν) : String :=
  "Rule \x7b name: " ++ quoted (rule.name?.getD "<anonymous>") ++ ", .. \x7d"

mutual

/-- How many rules a rule is made of, itself among them. -/
def size : Rule κ ν → Nat
  | tokens _ _ => 1
  | sequence parts _ => sizes parts + 1
  | choice alternatives => sizes alternatives + 1
  | optional body _ => body.size + 1
  | lookahead body => body.size + 1
  | list item _ _ => item.size + 1
  | cut body => body.size + 1
  | label _ body => body.size + 1
  | map _ body => body.size + 1
  | ref _ => 1
  | raw _ => 1

def sizes : List (Rule κ ν) → Nat
  | [] => 0
  | rule :: rest => rule.size + sizes rest

end

end Rule

/-- What the numbers in rules stand for, and how choices report their failures. -/
structure Grammar (κ ν : Type) where
  definitions : List (Option (Rule κ ν))
  policy : ErrorPolicy

namespace Grammar

variable {κ ν : Type}

/-- The rule that a number stands for. -/
def definition? (g : Grammar κ ν) (id : Nat) : Option (Rule κ ν) := (g.definitions[id]?).join

/-- How many rules the definitions are made of. -/
def size (g : Grammar κ ν) : Nat := Rule.sizes (g.definitions.filterMap id)

/-- The consumer that a rule stands for, nested no deeper than the fuel allows. -/
def run [DecidableEq κ] (g : Grammar κ ν) : Nat → Rule κ ν → Consumer κ ν
  | 0, _ => fun _ _ => none
  | _ + 1, .tokens kinds build => Consumer.tokens kinds build
  | fuel + 1, .sequence parts build => Consumer.sequence (parts.map (g.run fuel)) build
  | fuel + 1, .choice alternatives => Consumer.choice g.policy (alternatives.map (g.run fuel))
  | fuel + 1, .optional body wrap => Consumer.map wrap (Consumer.optional (g.run fuel body))
  | fuel + 1, .lookahead body => Consumer.lookahead (g.run fuel body)
  | fuel + 1, .list item delimiter wrap =>
    Consumer.map wrap (Consumer.list (g.run fuel item) delimiter)
  | fuel + 1, .cut body => Consumer.cut (g.run fuel body)
  | fuel + 1, .label name body => Consumer.named name (g.run fuel body)
  | fuel + 1, .map f body => Consumer.map f (g.run fuel body)
  | fuel + 1, .ref id =>
    match g.definition? id with
    | some rule => g.run fuel rule
    | none => Consumer.undefined
  | _ + 1, .raw consume => fun ts p => some (consume ts p)

/-- Fuel that a run from any cursor can do with: every rule at every cursor, one behind the last
token among them, and once more for cursors beyond. -/
def fuelFor (g : Grammar κ ν) (rule : Rule κ ν) (ts : List (Token κ)) : Nat :=
  (ts.length + 2) * (g.size + rule.size) + 1

/-- Runs a rule on a token list from a cursor on. -/
def consume [DecidableEq κ] (g : Grammar κ ν) (rule : Rule κ ν) : Consumer κ ν := fun ts p =>
  g.run (g.fuelFor rule ts) rule ts p

end Grammar

end Descent
