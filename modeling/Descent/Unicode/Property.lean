import Descent.Unicode.Letter
import Descent.Unicode.Mark
import Descent.Unicode.Number
import Descent.Unicode.Punctuation
import Descent.Unicode.Symbol
import Descent.Unicode.Separator
import Descent.Unicode.Supplement

/-!
# Character properties

A property is composed of tables the way the standard derives it, and kept as it was composed;
`Property.holds` tells its members. This file has the properties that patterns abbreviate and those
of which others are made.
-/

namespace Descent.Unicode

/-- A set of characters with a name of its own. -/
inductive Property where
  /-- The characters of a table. -/
  | table (runs : List Run)
  /-- The characters of either property. -/
  | union (a b : Property)
  /-- The characters of the first property that lack the second. -/
  | without (a b : Property)
  /-- The characters outside a property. -/
  | complement (a : Property)
deriving DecidableEq, Repr

namespace Property

/-- Whether a character has the property. -/
def holds : Property → Char → Bool
  | table runs, c => covers runs c.toNat
  | union a b, c => a.holds c || b.holds c
  | without a b, c => a.holds c && !b.holds c
  | complement a, c => !a.holds c

/-- The union of some properties. -/
def unions : List Property → Property
  | [] => table []
  | [p] => p
  | p :: rest => union p (unions rest)

/-- The characters of some tables. -/
def tables (ts : List (List Run)) : Property := unions (ts.map table)

/-- The characters with numbers from `first` to `last`. -/
def between (first last : Nat) : Property := table [⟨first, last, 1⟩]

/-! ## Unions of general categories -/

/-- Letters that have a case. -/
def casedLetter : Property := tables [uppercaseLetter, lowercaseLetter, titlecaseLetter]

/-- Letters, cased or not. -/
def letter : Property := unions [casedLetter, table modifierLetter, table otherLetter]

/-- Combining marks. -/
def mark : Property := tables [nonspacingMark, spacingMark, enclosingMark]

/-- Numbers of every kind. -/
def number : Property := tables [decimalNumber, letterNumber, otherNumber]

/-- Punctuation. -/
def punctuation : Property :=
  tables [connectorPunctuation, dashPunctuation, openPunctuation, closePunctuation,
    initialPunctuation, finalPunctuation, otherPunctuation]

/-- Symbols. -/
def symbol : Property := tables [mathSymbol, currencySymbol, modifierSymbol, otherSymbol]

/-- Separators. -/
def separator : Property := tables [spaceSeparator, lineSeparator, paragraphSeparator]

/-- The characters of every category. -/
def assigned : Property :=
  unions
    [letter, mark, number, punctuation, symbol, separator, tables [control, format, privateUse]]

/-- The characters of no category. -/
def unassigned : Property := complement assigned

/-! ## The properties that patterns abbreviate -/

/-- White space. -/
def space : Property := table whiteSpace

/-- Decimal digits of any script. -/
def digit : Property := table decimalNumber

/-- Alphabetic characters. -/
def alphabetic : Property := unions [letter, table letterNumber, table otherAlphabetic]

/-- The two invisible characters that keep letters joined or apart. -/
def joinControl : Property := between 0x200C 0x200D

/-- The characters of words: alphabetic ones, marks, decimal digits, connectors and joiners. -/
def word : Property :=
  unions [table decimalNumber, table connectorPunctuation, alphabetic, mark, joinControl]

/-- The alphabetic characters and all numbers. -/
def alphanumeric : Property := unions [table decimalNumber, table otherNumber, alphabetic]

end Property

end Descent.Unicode
