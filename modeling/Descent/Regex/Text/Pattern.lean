import Descent.Regex.Text.Class

/-!
# Patterns

`Regex.ofText?` reads the text of a pattern. The reader keeps the branches and items it has seen,
and calls itself for what stands in a group; whatever it cannot read makes the whole pattern
invalid. A group that is not captured adds its parts to those around it.

A flag holds from where it is set to the end of its group, later branches included. Names of groups
are unique in the whole pattern.
-/

namespace Descent.Regex.Text

/-- What the reader carries along. -/
structure Reading where
  flags : Flags
  /-- The names of the groups so far. -/
  names : List (List Char)
  rest : List Char

/-! ## Openings of groups -/

/-- What a parenthesis begins. -/
inductive Opening where
  /-- A change of flags for the rest of the enclosing group. -/
  | flags (flags : Flags)
  /-- A group that is not captured, under the flags given. -/
  | plain (flags : Flags)
  /-- A group that is captured, perhaps under a name. -/
  | capture (name : Option (List Char))

/-- Whether a character may occur in the name of a group. -/
def isNameChar (first : Bool) (c : Char) : Bool :=
  if first then c == '_' || Unicode.Property.alphabetic.holds c
  else c == '_' || c == '.' || c == '[' || c == ']' || Unicode.Property.alphanumeric.holds c

/-- The name of a group, up to the angle bracket that ends it. -/
def readName? (text : List Char) : Option (List Char × List Char) :=
  match text.span (· != '>') with
  | (c :: name, _ :: rest) =>
    if isNameChar true c ∧ name.all (isNameChar false) then some (c :: name, rest) else none
  | _ => none

/-- Flags up to a colon or a closing parenthesis. No flag may come twice, and a minus needs one
behind it. The result tells whether there was a flag, and which character ended them. -/
def readFlags? (seen : List Char) (flags : Flags) :
    List Char → Option (Flags × Bool × Char × List Char)
  | [] => none
  | c :: rest =>
    if c = ':' ∨ c = ')' then
      if seen.head? = some '-' then none else some (flags, !seen.isEmpty, c, rest)
    else if seen.contains c then none
    else if c = '-' then readFlags? (c :: seen) flags rest
    else do
      let flags ← flags.set? (!seen.contains '-') c
      readFlags? (c :: seen) flags rest

/-- What stands behind an opening parenthesis. Looking around is refused. -/
def readOpening? (s : Reading) : Option (Opening × Reading) :=
  match skip s.flags.extended s.rest with
  | '?' :: '=' :: _ | '?' :: '!' :: _ | '?' :: '<' :: '=' :: _ | '?' :: '<' :: '!' :: _ => none
  | '?' :: 'P' :: '<' :: rest => named rest
  | '?' :: '<' :: rest => named rest
  | '?' :: rest => do
    let (flags, any, last, rest) ← readFlags? [] s.flags rest
    if last = ':' then pure (.plain flags, { s with rest })
    else if any then pure (.flags flags, { s with rest })
    else none
  | rest => some (.capture none, { s with rest })
where
  named (rest : List Char) : Option (Opening × Reading) := do
    let (name, rest) ← readName? rest
    if s.names.contains name then none
    else pure (.capture (some name), { s with names := name :: s.names, rest })

/-! ## Single items -/

/-- The expression that matches one given character. -/
def charExpr? (flags : Flags) (c : Char) (byte : Bool) : Option Regex :=
  if flags.unicode then
    some (.one (if flags.caseInsensitive then .folded (.single c) else .single c))
  else if c.toNat < 0x80 then
    some (.one (if flags.caseInsensitive then .inter (.folded (.single c)) .ascii else .single c))
  else if byte then none
  else some (.one (.single c))

/-- The characters that a full stop matches. -/
def dotClass (flags : Flags) : CharClass :=
  if flags.dotAll then .all
  else if flags.crlf then .complement (.ofRanges [('\n', '\n'), ('\r', '\r')])
  else .complement (.single '\n')

/-- An item that is neither a group, a bracket nor a repetition. -/
def readItem? (flags : Flags) : List Char → Option (Regex × List Char)
  | [] => none
  | '\\' :: rest => do
    let (atom, rest) ← readEscape? flags rest
    match atom with
    | .char c byte => (charExpr? flags c byte).map fun r => (r, rest)
    | .set chars => pure (.one chars, rest)
    | .anchor a => pure (.anchor a, rest)
  | '.' :: rest => if flags.unicode then some (.one (dotClass flags), rest) else none
  | '^' :: rest =>
    some (.anchor (if flags.multiLine then .lineStart flags.crlf else .textStart), rest)
  | '$' :: rest =>
    some (.anchor (if flags.multiLine then .lineEnd flags.crlf else .textEnd), rest)
  | c :: rest => (charExpr? flags c false).map fun r => (r, rest)

/-! ## Repetitions -/

/-- Counts in braces, behind the opening one. -/
def readCounts? (extended : Bool) (text : List Char) :
    Option ((Nat × Option Nat) × List Char) := do
  let (least, rest) ← readCount? extended (skip extended text)
  match rest with
  | ',' :: rest =>
    match skip extended rest with
    | '\x7d' :: rest => pure ((least, none), rest)
    | rest => do
      let (bound, rest) ← readCount? extended rest
      match rest with
      | '\x7d' :: rest => if least ≤ bound then pure ((least, some bound), rest) else none
      | _ => none
  | '\x7d' :: rest => pure ((least, some least), rest)
  | _ => none

/-- A repetition sign; nothing if the text does not begin with one, and an inner nothing if it is
malformed. A question mark behind it makes it lazy. -/
def readRounds? (flags : Flags) : List Char → Option (Option (Rounds × List Char))
  | '?' :: rest => some (some (lazily (0, some 1) rest))
  | '*' :: rest => some (some (lazily (0, none) rest))
  | '+' :: rest => some (some (lazily (1, none) rest))
  | '\x7b' :: rest =>
    some ((readCounts? flags.extended rest).map fun (counts, rest) =>
      lazily counts (skip flags.extended rest))
  | _ => none
where
  lazily (counts : Nat × Option Nat) : List Char → Rounds × List Char
    | '?' :: rest => (⟨counts.1, counts.2, flags.swapGreed⟩, rest)
    | rest => (⟨counts.1, counts.2, !flags.swapGreed⟩, rest)

/-! ## Patterns -/

/-- The items of one branch, last one first, each with its parts. A change of flags is an item
without parts: it matches nothing and cannot be repeated. -/
abbrev Items := List (Option (List Regex))

/-- The parts of a branch. -/
def Items.parts (items : Items) : List Regex := (items.reverse.filterMap id).flatten

/-- The text behind a closing parenthesis. -/
def closed? : List Char → Option (List Char)
  | ')' :: rest => some rest
  | _ => none

/-- Reads branches up to a closing parenthesis, which is left in place, or to the end of the text.
The result are the parts of their alternation. Each step takes at least one character, so the length
of the text is fuel enough. -/
def readBranches? : Nat → List (List Regex) → Items → Reading → Option (List Regex × Reading)
  | 0, _, _, _ => none
  | fuel + 1, branches, items, s =>
    let finish := fun (rest : List Char) =>
      some (choose (items.parts :: branches).reverse, { s with rest })
    match skip s.flags.extended s.rest with
    | [] => finish []
    | ')' :: rest => finish (')' :: rest)
    | '|' :: rest => readBranches? fuel (items.parts :: branches) [] { s with rest }
    | '(' :: rest => do
      let (opening, inner) ← readOpening? { s with rest }
      match opening with
      | .flags flags => readBranches? fuel branches (none :: items) { inner with flags }
      | .plain flags => do
        let (parts, after) ← readBranches? fuel [] [] { inner with flags }
        let rest ← closed? after.rest
        readBranches? fuel branches (some parts :: items) { after with flags := s.flags, rest }
      | .capture name => do
        let (parts, after) ← readBranches? fuel [] [] inner
        let rest ← closed? after.rest
        readBranches? fuel branches (some [group name (seqs parts)] :: items)
          { after with flags := s.flags, rest }
    | '[' :: rest => do
      let (chars, rest) ← readClass? s.flags rest
      readBranches? fuel branches (some [.one chars] :: items) { s with rest }
    | text =>
      match readRounds? s.flags text with
      | some repetition => do
        let (rounds, rest) ← repetition
        match items with
        | some parts :: items =>
          readBranches? fuel branches (some (repeated parts rounds) :: items) { s with rest }
        | _ => none
      | none => do
        let (item, rest) ← readItem? s.flags text
        readBranches? fuel branches (some [item] :: items) { s with rest }

theorem readBranches?_zero (branches : List (List Regex)) (items : Items) (s : Reading) :
    readBranches? 0 branches items s = none := by
  rw [readBranches?]

end Descent.Regex.Text

namespace Descent.Regex

/-- The expression that a pattern denotes, if the pattern is valid. -/
def ofText? (pattern : List Char) : Option Regex := do
  let (parts, s) ← Text.readBranches? (pattern.length + 1) [] [] ⟨.initial, [], pattern⟩
  if s.rest.isEmpty then some (seqs parts) else none

end Descent.Regex
