import Descent.Regex.Anchor
import Descent.Regex.CharClass.Same

/-!
# Regular expressions

An expression is a tree of choices and sequences over single characters. Counted repetitions are
written out in copies, so what is left of repetition is three forms: at most once, any number of
times, and at least once.

Expressions are composed from *parts*: what stands side by side in a sequence is a list of parts,
and a sequence inside a sequence adds its parts to it. The parts matter because an alternation whose
branches begin with the same parts is read as those parts, followed by an alternation of what is
left of the branches.
-/

namespace Descent

/-- A regular expression. -/
inductive Regex where
  /-- Takes nothing. -/
  | empty
  /-- Takes one character of a class. -/
  | one (chars : CharClass)
  | anchor (anchor : Anchor)
  /-- One expression after the other. -/
  | seq (first second : Regex)
  /-- Either expression, the first one preferred. -/
  | alt (first second : Regex)
  /-- An expression that is captured, perhaps under a name; a match tells which names it has been
  through. -/
  | group (name : Option (List Char)) (body : Regex)
  /-- The expression once or not at all. -/
  | optional (body : Regex) (greedy : Bool)
  /-- Any number of rounds of an expression that takes at least one character; whether to go on is
  chosen in front of each round. -/
  | star (body : Regex) (greedy : Bool)
  /-- One or more rounds of an expression; whether to go on is chosen behind each round. -/
  | plus (body : Regex) (greedy : Bool)
deriving DecidableEq, Repr

namespace Regex

/-- Whether an expression might take nothing, conditions on places left aside. -/
def nullable : Regex → Bool
  | empty | anchor _ | optional .. | star .. => true
  | one _ => false
  | seq first second => first.nullable && second.nullable
  | alt first second => first.nullable || second.nullable
  | group _ body | plus body _ => body.nullable

/-- Whether an expression can never take a character. -/
def isBlank : Regex → Bool
  | empty | anchor _ => true
  | one _ | star .. => false
  | seq first second | alt first second => first.isBlank && second.isBlank
  | group _ body | optional body _ | plus body _ => body.isBlank

/-- Whether two expressions are built alike, from classes with the same members. A group is like no
other, since what it captures is its own. -/
def same : Regex → Regex → Bool
  | empty, empty => true
  | one a, one b => a.same b
  | anchor a, anchor b => a = b
  | seq a b, seq c d | alt a b, alt c d => a.same c && b.same d
  | optional a g, optional b h | star a g, star b h | plus a g, plus b h => g = h && a.same b
  | _, _ => false

/-! ## Sequences and alternations -/

/-- Expressions one after the other. -/
def seqs : List Regex → Regex
  | [] => empty
  | [r] => r
  | r :: rest => seq r (seqs rest)

/-- The expressions that an alternation chooses from. -/
def branches : Regex → List Regex
  | alt first second => first.branches ++ second.branches
  | r => [r]

/-- Some expressions with a choice between them. -/
def alts : List Regex → Regex
  | [] => empty
  | [r] => r
  | r :: rest => alt r (alts rest)

/-- The class of an expression that takes one character. -/
def chars? : Regex → Option CharClass
  | one chars => some chars
  | _ => none

/-- The alternation of some expressions, earlier ones preferred. Single characters make up a class,
and alternations add their branches. -/
def alternation (rs : List Regex) : Regex :=
  let all := rs.flatMap branches
  match all.mapM chars? with
  | some (c :: more) => one (more.foldl .union c)
  | _ => alts all

/-- The longest common beginning of two lists of parts. -/
def sharedParts : List Regex → List Regex → List Regex
  | a :: as, b :: bs => if a.same b then a :: sharedParts as bs else []
  | _, _ => []

/-- The parts of an alternation of branches given by their parts. Branches of two parts or more give
up what they all begin with, and choose behind it. -/
def choose : List (List Regex) → List Regex
  | [] => []
  | [branch] => branch
  | first :: rest =>
    let given := first :: rest
    let shared := rest.foldl sharedParts first
    if given.all (2 ≤ ·.length) then
      shared ++ [alternation (given.map fun parts => seqs (parts.drop shared.length))]
    else [alternation (given.map seqs)]

/-! ## Repetitions -/

/-- How often an expression is to match. -/
structure Rounds where
  least : Nat
  bound : Option Nat
  greedy : Bool
deriving DecidableEq, Repr

/-- What can only match nothing is not repeated. -/
def Rounds.limit (rounds : Rounds) (r : Regex) : Rounds :=
  if r.isBlank then
    { rounds with least := min rounds.least 1, bound := some (min (rounds.bound.getD 1) 1) }
  else rounds

/-- Up to a given number of rounds, each further one inside the choice of the one before. -/
def upTo (r : Regex) (greedy : Bool) : Nat → Regex
  | 0 => empty
  | 1 => optional r greedy
  | n + 2 => optional (seq r (upTo r greedy (n + 1))) greedy

/-- Any number of rounds. An expression that may take nothing has to be chosen behind its rounds,
or else a round of nothing would count as the end. -/
def anyNumber (r : Regex) (greedy : Bool) : Regex :=
  if r.nullable then optional (plus r greedy) greedy else star r greedy

/-- The parts of a repetition. A repetition is one part, unless it says once or never. -/
def repeated (parts : List Regex) (rounds : Rounds) : List Regex :=
  let r := seqs parts
  let ⟨least, bound, greedy⟩ := rounds.limit r
  match least, bound with
  | 0, some 0 => []
  | 1, some 1 => parts
  | 0, none => [anyNumber r greedy]
  | n + 1, none => [seqs (List.replicate n r ++ [plus r greedy])]
  | n, some m =>
    if n = m then [seqs (List.replicate n r)]
    else [seqs (List.replicate n r ++ [upTo r greedy (m - n)])]

end Regex

end Descent
