import Descent.Unicode.Property
import Descent.Unicode.Script.FirstHalf
import Descent.Unicode.Script.SecondHalf
import Descent.Unicode.Script.Shared

/-!
# Scripts by name

A character belongs to one script, and by extension to every script that uses it. A character that
some scripts share belongs to those alone by extension, and no longer to the common or inherited
characters.
-/

namespace Descent.Unicode.Property

/-- The scripts. -/
def scripts : List Script := Script.toLydian ++ Script.fromMahajani

/-- The script with a given name. -/
def scriptNamed? (name : String) : Option Script := scripts.find? (·.names.contains name)

/-- The characters of a script. -/
def script? (name : String) : Option Property :=
  (scriptNamed? name).map fun s => table s.own

/-- The characters of a script by extension. -/
def scriptExtension? (name : String) : Option Property :=
  (scriptNamed? name).map fun s => without (tables [s.own, s.shared]) (table (lent s))
where
  /-- What does not count as a script's own because other scripts are known to use it. -/
  lent (s : Script) : List Run :=
    if s = Script.common then sharedCommon
    else if s = Script.inherited then sharedInherited
    else []

end Descent.Unicode.Property
