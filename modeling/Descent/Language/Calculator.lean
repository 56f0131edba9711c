import Descent.Fold
import Descent.Decimal.Literal

/-!
# A calculator

Numbers joined by four operations, without parentheses. The grammar recurses on the right, so what
it reads leans to the right; while an expression is put together, `Expr.rebalance` turns it, so that
operations of equal rank lean to the left and those of higher rank bind tighter. A fold then
computes the value.
-/

namespace Descent.Calculator

/-- The kinds of tokens. -/
inductive Kind where
  | plus
  | minus
  | multiply
  | divide
  | number
  | space
deriving DecidableEq, Repr

instance : TokenKind Kind where
  name
    | .plus => "Plus"
    | .minus => "Minus"
    | .multiply => "Multiply"
    | .divide => "Divide"
    | .number => "Number"
    | .space => "Space"

/-- Operators and unsigned numbers; white space is skipped. -/
def definitions : List (TokenDef Kind) :=
  [⟨.plus, "\\+", false⟩,
   ⟨.minus, "-", false⟩,
   ⟨.multiply, "\\*", false⟩,
   ⟨.divide, "/", false⟩,
   ⟨.number, "\\d+(?:\\.\\d+)?", false⟩,
   ⟨.space, "\\s+", true⟩]

def lexer : Lexer Kind := .ofDefs definitions

/-! ## Expressions -/

/-- How tightly the operation with a symbol binds. -/
def rank : String → Nat
  | "*" | "/" => 2
  | _ => 1

/-- An expression, its numbers and the symbols of its operations as they were written. -/
inductive Expr where
  | number (text : String)
  | node (op : String) (left right : Expr)
deriving DecidableEq, Repr

namespace Expr

/-- Joins an operand to an expression on its right: the operation goes down the left edge, past
every operation that does not bind tighter. -/
def rebalance (left : Expr) (op : String) : Expr → Expr
  | node inner l r =>
    if rank inner ≤ rank op then node inner (rebalance left op l) r
    else node op left (node inner l r)
  | number text => node op left (number text)

/-- An expression as a tree of objects. -/
def toValue : Expr → Value
  | number text => .str text
  | node op left right =>
    .ofMembers [("op", .str op), ("left", left.toValue), ("right", right.toValue)]

end Expr

/-! ## Grammar -/

/-- What the rules of the grammar yield. -/
inductive Part where
  | operator (symbol : String)
  | expr (e : Expr)
deriving DecidableEq, Repr

namespace Part

/-- A part as a tree. -/
def toValue : Part → Value
  | operator symbol => .str symbol
  | expr e => e.toValue

end Part

def number : Rule Kind Part :=
  .named "number" <| .token .number fun t => .ok (.expr (.number t.value))

/-- The kinds of tokens that stand for an operation. -/
def operators : List Kind := [.plus, .minus, .multiply, .divide]

def operator : Rule Kind Part :=
  .named "operator" <| .choice <|
    operators.map fun kind => .token kind fun t => .ok (.operator t.value)

/-- Puts an expression together. -/
def join : List Part → Except String Part
  | [.expr left, .operator op, .expr right] => .ok (.expr (.rebalance left op right))
  | _ => .error ""

/-- A number, an operator, and then an expression or a last number. The rule itself is number 0. -/
def expression : Rule Kind Part :=
  .sequence [number, operator, .choice [.ref 0, number]] join

def grammar : Grammar Kind Part := ⟨[some expression], .entry⟩

def parser : Parser Kind Part := ⟨lexer, grammar, .named "expression" (.ref 0)⟩

/-- Parses an expression into a tree, with the notes of the parse. -/
def run (source : String) : Option (Parsed Kind Value) :=
  (parser.run source).map (·.map Part.toValue)

/-! ## Evaluation -/

/-- Whether a node is an operand: the root, or what stands left or right of an operator. -/
def isOperand (path : Path) : Bool :=
  path.getLast?.all fun s => s.key? == some "left" || s.key? == some "right"

/-- The operation that a symbol stands for. -/
def operation? : String → Option (Float → Float → Float)
  | "+" => some (· + ·)
  | "-" => some (· - ·)
  | "*" => some (· * ·)
  | "/" => some (· / ·)
  | _ => none

/-- Computes operands. What is no number, or no operation on two numbers, stays as it is. -/
def evaluate (folded : Folded) (visit : Visit) : Reduction :=
  if isOperand visit.path then
    match visit.node with
    | .str text =>
      match Decimal.float? text.toList with
      | some x => .replace (.ofFloat x)
      | none => .keep
    | .obj _ =>
      let operation := ((folded.get? "op").bind Value.text?).bind operation?
      let left := (folded.get? "left").bind Value.float?
      let right := (folded.get? "right").bind Value.float?
      match operation, left, right with
      | some apply, some x, some y => .replace (.ofFloat (apply x y))
      | _, _, _ => .keep
    | _ => .keep
  else .keep

/-- Parses an expression and computes it. -/
def calculator : Transformer Kind := ⟨run, evaluate⟩

end Descent.Calculator
