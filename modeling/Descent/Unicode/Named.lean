import Descent.Unicode.Age
import Descent.Unicode.Category
import Descent.Unicode.Segment

/-!
# Properties by name

A property is asked for by a name of its own, such as `Alphabetic`, `Lu` or `Greek`, or by a name
and a value, such as `Script=Greek`. Names are compared without regard to case, blanks, hyphens and
underscores.
-/

namespace Descent.Unicode.Property

/-- A name in the form in which names are compared: ASCII alone, in small letters, without blanks,
hyphens and underscores. The word `is` in front is dropped, unless it leaves a single `c`. -/
def plainName (name : List Char) : String :=
  match name with
  | i :: s :: rest =>
    if i.toLower = 'i' ∧ s.toLower = 's' then
      let plain := squeeze rest
      String.ofList (if plain = ['c'] then ['i', 's', 'c'] else plain)
    else String.ofList (squeeze name)
  | name => String.ofList (squeeze name)
where
  squeeze (name : List Char) : List Char :=
    (name.filter fun c => c.toNat < 0x80 && c != ' ' && c != '-' && c != '_').map Char.toLower

/-- The properties that a character has or lacks, each with its names. -/
def traits : List (List String × Property) :=
  [(["alphabetic", "alpha"], alphabetic),
   (["asciihexdigit", "ahex"], table asciiHexDigit),
   (["bidicontrol", "bidic"], table bidiControl),
   (["bidimirrored", "bidim"], table bidiMirrored),
   (["cased"], cased),
   (["caseignorable", "ci"],
     unions [tables [nonspacingMark, enclosingMark, format, modifierLetter, modifierSymbol,
       midLetter, midNumLet], only 0x27]),
   (["changeswhencasefolded", "cwcf"], changesWhenCasefolded),
   (["changeswhencasemapped", "cwcm"], changesWhenCasemapped),
   (["changeswhenlowercased", "cwl"], changesWhenLowercased),
   (["changeswhentitlecased", "cwt"], changesWhenTitlecased),
   (["changeswhenuppercased", "cwu"], changesWhenUppercased),
   (["dash"], table dash),
   (["defaultignorablecodepoint", "di"], defaultIgnorable),
   (["deprecated", "dep"], table Unicode.deprecated),
   (["diacritic", "dia"], table diacritic),
   (["emoji"], table emoji),
   (["emojicomponent", "ecomp"], table emojiComponent),
   (["emojimodifier", "emod"], table emojiModifier),
   (["emojimodifierbase", "ebase"], table emojiModifierBase),
   (["emojipresentation", "epres"], table emojiPresentation),
   (["extendedpictographic", "extpict"], table extendedPictographic),
   (["extender", "ext"], table Unicode.extender),
   (["graphemebase", "grbase"], graphemeBase),
   (["graphemeextend", "grext"], graphemeExtend),
   (["graphemelink", "grlink"], table graphemeLink),
   (["hexdigit", "hex"], table hexDigit),
   (["hyphen"], table hyphen),
   (["idcompatmathcontinue"], table idCompatMathContinue),
   (["idcompatmathstart"], table idCompatMathStart),
   (["idcontinue", "idc"], idContinue),
   (["ideographic", "ideo"], table Unicode.ideographic),
   (["idsbinaryoperator", "idsb"], table idsBinaryOperator),
   (["idstart", "ids"], idStart),
   (["idstrinaryoperator", "idst"], table idsTrinaryOperator),
   (["idsunaryoperator", "idsu"], table idsUnaryOperator),
   (["joincontrol", "joinc"], joinControl),
   (["logicalorderexception", "loe"], table logicalOrderException),
   (["lowercase", "lower"], lowercase),
   (["math"], math),
   (["modifiercombiningmark", "mcm"], table modifierCombiningMark),
   (["noncharactercodepoint", "nchar"], table noncharacter),
   (["otheralphabetic", "oalpha"], table otherAlphabetic),
   (["otherdefaultignorablecodepoint", "odi"], table otherDefaultIgnorable),
   (["othergraphemeextend", "ogrext"], table otherGraphemeExtend),
   (["otheridcontinue", "oidc"], table otherIdContinue),
   (["otheridstart", "oids"], table otherIdStart),
   (["otherlowercase", "olower"], table otherLowercase),
   (["othermath", "omath"], table otherMath),
   (["otheruppercase", "oupper"], table otherUppercase),
   (["patternsyntax", "patsyn"], table patternSyntax),
   (["patternwhitespace", "patws"], table patternWhiteSpace),
   (["prependedconcatenationmark", "pcm"], table prependedConcatenationMark),
   (["quotationmark", "qmark"], table quotationMark),
   (["radical"], table Unicode.radical),
   (["regionalindicator", "ri"], table Unicode.regionalIndicator),
   (["sentenceterminal", "sterm"], table Unicode.sentenceTerminal),
   (["softdotted", "sd"], table softDotted),
   (["terminalpunctuation", "term"], table terminalPunctuation),
   (["unifiedideograph", "uideo"], table unifiedIdeograph),
   (["uppercase", "upper"], uppercase),
   (["variationselector", "vs"], table variationSelector),
   (["whitespace", "space", "wspace"], space),
   (["xidcontinue", "xidc"], xidContinue),
   (["xidstart", "xids"], xidStart)]

/-- The characters that were there in a given edition of the standard. -/
def age? (name : String) : Option Property :=
  (upTo editions).map tables
where
  /-- The tables of the editions up to the one that is asked for. -/
  upTo : List Edition → Option (List (List Run))
    | [] => none
    | e :: rest =>
      if name = e.version ∨ name = "v" ++ String.ofList (e.version.toList.filter (· != '.')) then
        some [e.added]
      else (upTo rest).map (e.added :: ·)

/-- The property with a given name: a trait, a general category or a script. -/
def ofName? (name : List Char) : Option Property :=
  let name := plainName name
  find? traits name <|> category? name <|> script? name

/-- The property written with a name and a value. -/
def ofNameValue? (name value : List Char) : Option Property :=
  let value := plainName value
  match plainName name with
  | "gc" | "generalcategory" => category? value
  | "sc" | "script" => script? value
  | "scx" | "scriptextensions" => scriptExtension? value
  | "age" => age? value
  | "gcb" | "graphemeclusterbreak" => find? graphemeClasses value
  | "wb" | "wordbreak" => find? wordClasses value
  | "sb" | "sentencebreak" => find? sentenceClasses value
  | _ => none

end Descent.Unicode.Property
