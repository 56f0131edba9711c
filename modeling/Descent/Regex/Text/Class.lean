import Descent.Regex.Text.Escape

/-!
# Bracketed classes of a pattern

A bracket holds characters, ranges, escapes, named ASCII classes and further brackets, joined by
juxtaposition or by one of three operations, which bind weaker and from left to right. A closing
bracket in front and hyphens in front are members.
-/

namespace Descent.Regex.Text

/-- An operation between two classes. -/
inductive ClassOp where
  | intersection
  | difference
  | symmetricDifference
deriving DecidableEq, Repr

namespace ClassOp

/-- The class that an operation makes of two. -/
def apply : ClassOp → CharClass → CharClass → CharClass
  | intersection => .inter
  | difference => .diff
  | symmetricDifference => .symmDiff

end ClassOp

/-- The operation at the front of a text. -/
def classOp? : List Char → Option (ClassOp × List Char)
  | '&' :: '&' :: rest => some (.intersection, rest)
  | '-' :: '-' :: rest => some (.difference, rest)
  | '~' :: '~' :: rest => some (.symmetricDifference, rest)
  | _ => none

/-- What stands left of the items that are being read: nothing, or a class and an operation. -/
abbrev Pending := Option (CharClass × ClassOp)

/-- Applies the pending operation. Under case insensitivity both operands are closed first. -/
def Pending.finish (flags : Flags) : Pending → CharClass → CharClass
  | none, items => items
  | some (left, op), items =>
    let close := fun c => if flags.caseInsensitive then CharClass.folded c else c
    op.apply (close left) (close items)

/-- A named ASCII class such as `[:alpha:]`, behind its opening bracket. -/
def readAsciiClass? (text : List Char) : Option (Bool × CharClass × List Char) :=
  match text with
  | ':' :: '^' :: rest => (named? rest).map fun (c, left) => (true, c, left)
  | ':' :: rest => (named? rest).map fun (c, left) => (false, c, left)
  | _ => none
where
  named? (text : List Char) : Option (CharClass × List Char) :=
    match text.span (· != ':') with
    | (name, ':' :: ']' :: rest) => (CharClass.asciiNamed? name).map fun c => (c, rest)
    | _ => none

/-- What begins a bracket: whether it is a complement, and the members that stand there only
because they are in front. -/
def readClassStart? (extended : Bool) (text : List Char) :
    Option (Bool × CharClass × List Char) :=
  match skip extended text with
  | '^' :: rest => (members? (skip extended rest)).map fun (c, left) => (true, c, left)
  | text => (members? text).map fun (c, left) => (false, c, left)
where
  members? (text : List Char) : Option (CharClass × List Char) :=
    let (hyphens, rest) := takeSkipping extended (· == '-') text.length text
    match hyphens, rest with
    | _, [] => none
    | [], ']' :: rest =>
      let rest := skip extended rest
      if rest.isEmpty then none else some (.single ']', rest)
    | [], rest => some (.none, rest)
    | _ :: _, rest => some (.single '-', rest)

/-- One member of a bracket, before it is known whether it begins a range. -/
def readMember? (flags : Flags) : List Char → Option (Atom × List Char)
  | [] => none
  | '\\' :: rest => readEscape? flags rest
  | c :: rest => some (.char c false, rest)

/-- The character of a member that may bound a range: outside Unicode mode only an ASCII one. -/
def Atom.bound? (flags : Flags) : Atom → Option Char
  | .char c _ => if flags.unicode || c.toNat < 0x80 then some c else none
  | _ => none

/-- The class of a member that is not part of a range. -/
def Atom.class? (flags : Flags) : Atom → Option CharClass
  | .set chars => some chars
  | atom => (atom.bound? flags).map CharClass.single

/-- The character behind the next one that means something: blanks and one number sign are passed
over in the extended layout. -/
def peekAfter (extended : Bool) (text : List Char) : Option Char :=
  let rest := text.tail
  if extended then
    match rest.dropWhile isBlank with
    | '#' :: more =>
      match more.dropWhile isBlank with
      | [] => rest.head?
      | c :: _ => some c
    | [] => rest.head?
    | c :: _ => some c
  else rest.head?

/-- A member or a range of a bracket. -/
def readClassItem? (flags : Flags) (text : List Char) : Option (CharClass × List Char) := do
  let (first, rest) ← readMember? flags text
  let rest := skip flags.extended rest
  match rest with
  | [] => none
  | '-' :: more =>
    let next := peekAfter flags.extended rest
    if next = some ']' ∨ next = some '-' then
      (first.class? flags).map fun c => (c, rest)
    else
      let (last, left) ← readMember? flags (skip flags.extended more)
      let low ← first.bound? flags
      let high ← last.bound? flags
      if low ≤ high then pure (.range low high, left) else none
  | _ => (first.class? flags).map fun c => (c, rest)

/-- The rest of a bracket, up to its closing bracket; `items` is what has been read since the last
operation. Each step takes at least one character, so the length of the text is fuel enough. -/
def readClassRest? (flags : Flags) : Nat → Pending → CharClass → List Char →
    Option (CharClass × List Char)
  | 0, _, _, _ => none
  | fuel + 1, pending, items, text =>
    let text := skip flags.extended text
    match text with
    | [] => none
    | ']' :: rest => some (pending.finish flags items, rest)
    | '[' :: rest =>
      match readAsciiClass? rest with
      | some (negated, chars, rest) => do
        let chars ← CharClass.under? flags negated chars
        readClassRest? flags fuel pending (.union items chars) rest
      | none => do
        let (negated, members, rest) ← readClassStart? flags.extended rest
        let (chars, rest) ← readClassRest? flags fuel none members rest
        let chars ← CharClass.under? flags negated chars
        readClassRest? flags fuel pending (.union items chars) rest
    | text =>
      match classOp? text with
      | some (op, rest) =>
        readClassRest? flags fuel (some (pending.finish flags items, op)) .none rest
      | none => do
        let (chars, rest) ← readClassItem? flags text
        readClassRest? flags fuel pending (.union items chars) rest

/-- A bracketed class, behind its opening bracket. -/
def readClass? (flags : Flags) (text : List Char) : Option (CharClass × List Char) := do
  let (negated, members, rest) ← readClassStart? flags.extended text
  let (chars, rest) ← readClassRest? flags (rest.length + 1) none members rest
  let chars ← CharClass.under? flags negated chars
  pure (chars, rest)

end Descent.Regex.Text
