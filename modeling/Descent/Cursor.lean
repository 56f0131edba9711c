/-!
# Cursors

A cursor counts the tokens that lie behind a run. It is a plain number: a rule that tries something
keeps its own cursor, tries from a copy, and takes over the place that the copy reached only if the
attempt was a success. Nothing keeps a cursor from pointing behind the last token.
-/

namespace Descent

/-- An index into a token list. -/
abbrev Cursor := Nat

namespace Cursor

/-- In front of all tokens. -/
def start : Cursor := 0

/-- Past some further tokens. -/
def advance (c : Cursor) (count : Nat) : Cursor := c + count

/-- The place that a successful attempt reached. -/
def adopt (_ reached : Cursor) : Cursor := reached

/-- The order of the places. -/
def compare (a b : Cursor) : Ordering := Ord.compare (α := Nat) a b

end Cursor

end Descent
