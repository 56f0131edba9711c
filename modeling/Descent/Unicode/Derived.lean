import Descent.Unicode.Property
import Descent.Unicode.Casing

/-!
# Derived properties

The properties that the standard derives from general categories and supplements: case, changes of
case, identifiers, graphemes, and characters that may be ignored.
-/

namespace Descent.Unicode.Property

/-! ## Case -/

/-- The property `Lowercase`. -/
def lowercase : Property := tables [lowercaseLetter, otherLowercase]

/-- The property `Uppercase`. -/
def uppercase : Property := tables [uppercaseLetter, otherUppercase]

/-- The property `Cased`. -/
def cased : Property := unions [lowercase, uppercase, table titlecaseLetter]

/-- The property `Changes_When_Lowercased`. -/
def changesWhenLowercased : Property := table Unicode.changesWhenLowercased

/-- The property `Changes_When_Uppercased`. -/
def changesWhenUppercased : Property := table Unicode.changesWhenUppercased

/-- The property `Changes_When_Titlecased`. -/
def changesWhenTitlecased : Property :=
  without (union changesWhenUppercased (table titlecasedOnly)) (table uppercasedOnly)

/-- The property `Changes_When_Casefolded`. -/
def changesWhenCasefolded : Property :=
  without (union changesWhenLowercased (table casefoldedOnly)) (table lowercasedOnly)

/-- The property `Changes_When_Casemapped`. -/
def changesWhenCasemapped : Property :=
  unions [changesWhenLowercased, changesWhenUppercased, changesWhenTitlecased]

/-! ## Mathematics -/

/-- The property `Math`. -/
def math : Property := tables [mathSymbol, otherMath]

/-! ## Identifiers -/

/-- The characters that the syntax of patterns keeps for itself. -/
def patternReserved : Property := tables [patternSyntax, patternWhiteSpace]

/-- The property `ID_Start`. -/
def idStart : Property :=
  without (unions [letter, table letterNumber, table otherIdStart]) patternReserved

/-- The property `ID_Continue`. -/
def idContinue : Property :=
  without
    (unions [idStart,
      tables [nonspacingMark, spacingMark, decimalNumber, connectorPunctuation, otherIdContinue]])
    patternReserved

/-- The property `XID_Start`. -/
def xidStart : Property := without idStart (table idStartNotClosed)

/-- The property `XID_Continue`. -/
def xidContinue : Property := without idContinue (table idContinueNotClosed)

/-! ## Graphemes -/

/-- The property `Grapheme_Extend`. -/
def graphemeExtend : Property := tables [nonspacingMark, enclosingMark, otherGraphemeExtend]

/-- The property `Grapheme_Base`. -/
def graphemeBase : Property :=
  without assigned
    (unions [tables [control, format, privateUse, lineSeparator, paragraphSeparator],
      graphemeExtend])

/-! ## Characters that may be ignored -/

/-- The property `Default_Ignorable_Code_Point`. Annotations and controls of hieroglyphs are formats
that are not ignored. -/
def defaultIgnorable : Property :=
  without (tables [otherDefaultIgnorable, format, variationSelector])
    (unions [table whiteSpace, between 0xFFF9 0xFFFB, between 0x13430 0x13440,
      table prependedConcatenationMark])

end Descent.Unicode.Property
