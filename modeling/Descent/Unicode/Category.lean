import Descent.Unicode.Property

/-!
# General categories by name

The names of the general categories, in the form in which names are compared: small letters alone.
-/

namespace Descent.Unicode.Property

/-- The general categories and their unions, each with its names. -/
def categories : List (List String × Property) :=
  [(["any"], complement (table [])),
   (["assigned"], assigned),
   (["ascii"], between 0 0x7F),
   (["lu", "uppercaseletter"], table uppercaseLetter),
   (["ll", "lowercaseletter"], table lowercaseLetter),
   (["lt", "titlecaseletter"], table titlecaseLetter),
   (["lc", "casedletter"], casedLetter),
   (["lm", "modifierletter"], table modifierLetter),
   (["lo", "otherletter"], table otherLetter),
   (["l", "letter"], letter),
   (["mn", "nonspacingmark"], table nonspacingMark),
   (["mc", "spacingmark"], table spacingMark),
   (["me", "enclosingmark"], table enclosingMark),
   (["m", "mark", "combiningmark"], mark),
   (["nd", "decimalnumber", "digit"], digit),
   (["nl", "letternumber"], table letterNumber),
   (["no", "othernumber"], table otherNumber),
   (["n", "number"], number),
   (["pc", "connectorpunctuation"], table connectorPunctuation),
   (["pd", "dashpunctuation"], table dashPunctuation),
   (["ps", "openpunctuation"], table openPunctuation),
   (["pe", "closepunctuation"], table closePunctuation),
   (["pi", "initialpunctuation"], table initialPunctuation),
   (["pf", "finalpunctuation"], table finalPunctuation),
   (["po", "otherpunctuation"], table otherPunctuation),
   (["p", "punctuation", "punct"], punctuation),
   (["sm", "mathsymbol"], table mathSymbol),
   (["sc", "currencysymbol"], table currencySymbol),
   (["sk", "modifiersymbol"], table modifierSymbol),
   (["so", "othersymbol"], table otherSymbol),
   (["s", "symbol"], symbol),
   (["zs", "spaceseparator"], table spaceSeparator),
   (["zl", "lineseparator"], table lineSeparator),
   (["zp", "paragraphseparator"], table paragraphSeparator),
   (["z", "separator"], separator),
   (["cc", "control", "cntrl"], table control),
   (["cf", "format"], table format),
   (["co", "privateuse"], table privateUse),
   (["cn", "unassigned"], unassigned),
   (["c", "other"], union unassigned (tables [control, format, privateUse]))]

/-- The property under a name in a list of named properties. -/
def find? (entries : List (List String × Property)) (name : String) : Option Property :=
  (entries.find? (·.1.contains name)).map (·.2)

/-- The general category with a given name. -/
def category? (name : String) : Option Property := find? categories name

end Descent.Unicode.Property
