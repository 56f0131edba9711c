import Descent.Unicode.Run

/-!
# Scripts

A script has characters of its own, and may use characters that belong to several scripts. Of those
each script that uses them keeps a second table.
-/

namespace Descent.Unicode

/-- A script: its names in small letters, its characters, and those it shares with other scripts
although they count as common or inherited. -/
structure Script where
  names : List String
  own : List Run
  shared : List Run
deriving DecidableEq, Repr

end Descent.Unicode
