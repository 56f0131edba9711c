import Descent.Unicode.Property
import Descent.Unicode.CaseFolding

/-!
# Character classes

A class is a description of a set of characters, kept as it was composed; `CharClass.holds` tells
its members. Nothing is normalised, so the laws of a class are those of its composition.
-/

namespace Descent

/-- A set of characters. -/
inductive CharClass where
  /-- No character. -/
  | none
  /-- The characters from `first` to `last`. -/
  | range (first last : Char)
  | property (property : Unicode.Property)
  | union (a b : CharClass)
  | inter (a b : CharClass)
  | diff (a b : CharClass)
  /-- The characters in exactly one of the two. -/
  | symmDiff (a b : CharClass)
  | complement (a : CharClass)
  /-- The variants, by case, of the members of a class. -/
  | folded (a : CharClass)
deriving DecidableEq, Repr

namespace CharClass

/-- Whether a character belongs to a class. -/
def holds : CharClass → Char → Bool
  | none, _ => false
  | range first last, c => first ≤ c && c ≤ last
  | property p, c => p.holds c
  | union a b, c => a.holds c || b.holds c
  | inter a b, c => a.holds c && b.holds c
  | diff a b, c => a.holds c && !b.holds c
  | symmDiff a b, c => a.holds c != b.holds c
  | complement a, c => !a.holds c
  | folded a, c => (Unicode.caseVariants c).any a.holds

/-- The class of one character. -/
def single (c : Char) : CharClass := range c c

/-- The class of every character. -/
def all : CharClass := complement none

/-- The union of a list of ranges. -/
def ofRanges (ranges : List (Char × Char)) : CharClass :=
  ranges.foldr (fun r rest => union (range r.1 r.2) rest) none

/-- The ASCII characters. -/
def ascii : CharClass := range '\x00' '\x7f'

/-! ## Digits, white space and word characters, in Unicode or in ASCII only -/

/-- Decimal digits. -/
def digit (unicode : Bool) : CharClass :=
  if unicode then property .digit else range '0' '9'

/-- White space. -/
def space (unicode : Bool) : CharClass :=
  if unicode then property .space else ofRanges [('\t', '\r'), (' ', ' ')]

/-- Word characters. -/
def word (unicode : Bool) : CharClass :=
  if unicode then property .word
  else ofRanges [('0', '9'), ('A', 'Z'), ('_', '_'), ('a', 'z')]

/-- The ASCII class with a given name. -/
def asciiNamed? (name : List Char) : Option CharClass :=
  let letters := [('A', 'Z'), ('a', 'z')]
  (asciiNames letters).find? (fun entry => name = entry.1.toList) |>.map fun e => ofRanges e.2
where
  asciiNames (letters : List (Char × Char)) : List (String × List (Char × Char)) :=
    [("alnum", ('0', '9') :: letters),
     ("alpha", letters),
     ("ascii", [('\x00', '\x7f')]),
     ("blank", [('\t', '\t'), (' ', ' ')]),
     ("cntrl", [('\x00', '\x1f'), ('\x7f', '\x7f')]),
     ("digit", [('0', '9')]),
     ("graph", [('!', '~')]),
     ("lower", [('a', 'z')]),
     ("print", [(' ', '~')]),
     ("punct", [('!', '/'), (':', '@'), ('[', '\x60'), ('\x7b', '~')]),
     ("space", [('\t', '\r'), (' ', ' ')]),
     ("upper", [('A', 'Z')]),
     ("word", [('0', '9'), ('A', 'Z'), ('_', '_'), ('a', 'z')]),
     ("xdigit", [('0', '9'), ('A', 'F'), ('a', 'f')])]

end CharClass

end Descent
