import Descent.Unicode.Boundary
import Descent.Unicode.Derived
import Descent.Unicode.Emoji
import Descent.Unicode.Script
import Descent.Unicode.Trait

/-!
# Classes for finding graphemes, words and sentences

Texts are divided into graphemes, words and sentences by classes of characters, one list of classes
for each. Every class has a short and a long name.
-/

namespace Descent.Unicode.Property

/-- The character with a given number. -/
def only (code : Nat) : Property := between code code

/-- Marks and modifiers that belong to the character before them. -/
def extender : Property := union graphemeExtend (table emojiModifier)

/-- Invisible characters that direct what is around them. -/
def formatting : Property := without (table format) graphemeExtend

/-- Hangul syllables without a consonant at the end. -/
def openSyllable : Property := table [⟨0xAC00, 0xD788, 28⟩]

/-- The classes that divide a text into graphemes. -/
def graphemeClasses : List (List String × Property) :=
  [(["cn", "control"],
     without
       (union (tables [control, format, lineSeparator, paragraphSeparator])
         (without defaultIgnorable assigned))
       (unions [graphemeExtend, table prependedConcatenationMark, only 0xA, only 0xD,
         only 0x200D])),
   (["cr"], only 0xD),
   (["lf"], only 0xA),
   (["ex", "extend"], extender),
   (["l"], table leadingJamo),
   (["v"], table vowelJamo),
   (["t"], table trailingJamo),
   (["lv"], openSyllable),
   (["lvt"], without (between 0xAC00 0xD7A3) openSyllable),
   (["pp", "prepend"], tables [prependedConcatenationMark, prependedLetter]),
   (["ri", "regionalindicator"], table Unicode.regionalIndicator),
   (["sm", "spacingmark"],
     without (unions [table spacingMark, only 0xE33, only 0xEB3])
       (union graphemeExtend (table spacingMarkExcluded))),
   (["zwj"], only 0x200D)]

/-- The letters of words: alphabetic characters of scripts that write spaces between words. -/
def wordLetter : Property :=
  without
    (union
      (without alphabetic
        (unions [graphemeExtend,
          tables [spacingMark, Unicode.ideographic, Script.hiragana.own, Script.katakana.own,
            Script.hebrew.own]]))
      (table wordLetterAdded))
    (table wordLetterExcluded)

/-- The classes that divide a text into words. -/
def wordClasses : List (List String × Property) :=
  [(["cr"], only 0xD),
   (["lf"], only 0xA),
   (["nl", "newline"], unions [between 0xB 0xC, only 0x85, between 0x2028 0x2029]),
   (["dq", "doublequote"], only 0x22),
   (["sq", "singlequote"], only 0x27),
   (["ex", "extendnumlet"], union (table connectorPunctuation) (only 0x202F)),
   (["extend"], union extender (table spacingMark)),
   (["fo", "format"], without formatting (union (only 0x200B) (only 0x200D))),
   (["hl", "hebrewletter"], without (table Script.hebrew.own) (complement (table otherLetter))),
   (["ka", "katakana"], union (table Script.katakana.own) (table katakanaAdded)),
   (["le", "aletter"], wordLetter),
   (["mb", "midnumlet"], table midNumLet),
   (["ml", "midletter"], table midLetter),
   (["mn", "midnum"], table midNum),
   (["nu", "numeric"], union digit (only 0x66B)),
   (["ri", "regionalindicator"], table Unicode.regionalIndicator),
   (["wsegspace"], table wordSpace),
   (["zwj"], only 0x200D)]

/-- Small letters that may go on a sentence. -/
def sentenceLower : Property := without lowercase (union graphemeExtend (table georgianSmall))

/-- Capital letters, which may begin a sentence. -/
def sentenceUpper : Property :=
  without (union uppercase (table titlecaseLetter)) (table georgianCapital)

/-- The classes that divide a text into sentences. -/
def sentenceClasses : List (List String × Property) :=
  [(["cr"], only 0xD),
   (["lf"], only 0xA),
   (["se", "sep"], union (only 0x85) (between 0x2028 0x2029)),
   (["sp"],
     without space (unions [only 0xA, only 0xD, only 0x85, between 0x2028 0x2029])),
   (["at", "aterm"], unions [only 0x2E, only 0x2024, only 0xFE52, only 0xFF0E]),
   (["st", "sterm"],
     without (table Unicode.sentenceTerminal) (unions [only 0x2E, only 0xFE52, only 0xFF0E])),
   (["cl", "close"],
     tables [openPunctuation, closePunctuation, initialPunctuation, finalPunctuation, closeAdded]),
   (["sc", "scontinue"], table sentenceContinue),
   (["ex", "extend"], unions [graphemeExtend, table spacingMark, only 0x200D]),
   (["fo", "format"], without formatting (only 0x200D)),
   (["nu", "numeric"], union digit (between 0x66B 0x66C)),
   (["lo", "lower"], sentenceLower),
   (["up", "upper"], sentenceUpper),
   (["le", "oletter"],
     union (only 0x5F3)
       (without alphabetic
         (unions [graphemeExtend, table spacingMark, sentenceLower, sentenceUpper])))]

end Descent.Unicode.Property
