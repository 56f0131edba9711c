import Descent.Json.Value
import Descent.Json.Number

/-!
# JSON as text

`Json.parse` reads a whole text as one value. The reader takes a text and returns what it has read
with the rest, or the first fault.

Parts that nobody asks for may be skimmed: they have to be well formed, yet numbers may be out of
range and escaped surrogates need no partner.
-/

namespace Descent.Json

/-- Characters between the parts of a text. -/
def isSpace (c : Char) : Bool := c == ' ' || c == '\n' || c == '\t' || c == '\r'

def skipSpace (text : List Char) : List Char := text.dropWhile isSpace

/-! ## Strings -/

/-- The value of a hexadecimal digit. -/
def hex? (c : Char) : Option Nat :=
  if '0' ≤ c ∧ c ≤ '9' then some (c.toNat - '0'.toNat)
  else if 'a' ≤ c ∧ c ≤ 'f' then some (c.toNat - 'a'.toNat + 10)
  else if 'A' ≤ c ∧ c ≤ 'F' then some (c.toNat - 'A'.toNat + 10)
  else none

/-- Four hexadecimal digits. Four bytes are looked at, if there are as many. -/
def readUnit (text : List Char) : Except Fault (Nat × List Char) :=
  if (bytes (text.take 4)).length < 4 then stopAt .endInString []
  else
    match text with
    | a :: b :: c :: d :: rest =>
      match hex? a, hex? b, hex? c, hex? d with
      | some a, some b, some c, some d => .ok (((a * 16 + b) * 16 + c) * 16 + d, rest)
      | _, _, _, _ => .error ⟨.invalidEscape, text, 4⟩
    | _ => .error ⟨.invalidEscape, text, 4⟩

/-- The second half of a pair of surrogates, whose first half has been read. -/
def readPartner (high : Nat) : List Char → Except Fault (Char × List Char)
  | [] => refuse .endInString []
  | '\\' :: [] => refuse .endInString []
  | '\\' :: 'u' :: rest => do
    let (low, rest) ← readUnit rest
    if 0xDC00 ≤ low ∧ low ≤ 0xDFFF then
      pure (Char.ofNat ((high - 0xD800) * 0x400 + (low - 0xDC00) + 0x10000), rest)
    else stopAt .loneSurrogate rest
  | '\\' :: rest => refuse .unfinishedSurrogate rest
  | rest => refuse .unfinishedSurrogate rest

/-- A character by its number, behind the `u`. Skimming takes any four digits. -/
def readUnicode (skim : Bool) (text : List Char) : Except Fault (Char × List Char) := do
  let (n, rest) ← readUnit text
  if skim then pure (Char.ofNat n, rest)
  else if 0xDC00 ≤ n ∧ n ≤ 0xDFFF then stopAt .loneSurrogate rest
  else if 0xD800 ≤ n ∧ n ≤ 0xDBFF then readPartner n rest
  else pure (Char.ofNat n, rest)

/-- The rest of an escape, behind the backslash. -/
def readEscape (skim : Bool) : List Char → Except Fault (Char × List Char)
  | [] => stopAt .endInString []
  | '"' :: rest => .ok ('"', rest)
  | '\\' :: rest => .ok ('\\', rest)
  | '/' :: rest => .ok ('/', rest)
  | 'b' :: rest => .ok ('\x08', rest)
  | 'f' :: rest => .ok ('\x0c', rest)
  | 'n' :: rest => .ok ('\n', rest)
  | 'r' :: rest => .ok ('\r', rest)
  | 't' :: rest => .ok ('\t', rest)
  | 'u' :: rest => readUnicode skim rest
  | text => refuse .invalidEscape text

/-- The rest of a string, behind its opening quote. Each step takes at least one character, so the
length of the text is fuel enough. -/
def readString (skim : Bool) : Nat → List Char → Except Fault (List Char × List Char)
  | 0, text => stopAt .endInString text
  | _ + 1, [] => stopAt .endInString []
  | fuel + 1, c :: rest =>
    if c = '"' then .ok ([], rest)
    else if c = '\\' then do
      let (c, rest) ← readEscape skim rest
      let (cs, rest) ← readString skim fuel rest
      pure (c :: cs, rest)
    else if c.toNat < 0x20 then stopAt .controlCharacter rest
    else do
      let (cs, rest) ← readString skim fuel rest
      pure (c :: cs, rest)

/-- A string behind its opening quote, as text. -/
def readText (skim : Bool) (text : List Char) : Except Fault (String × List Char) := do
  let (cs, rest) ← readString skim (text.length + 1) text
  pure (String.ofList cs, rest)

/-! ## Words -/

/-- The rest of a word, of which the first letter has been taken. -/
def readWord : List Char → List Char → Except Fault (List Char)
  | [], rest => .ok rest
  | _ :: _, [] => stopAt .endInValue []
  | w :: ws, c :: rest => if c = w then readWord ws rest else refuse .expectedIdent (c :: rest)

/-! ## Parts of lists and objects -/

/-- Moves to the next item of a list, or finds that there is none. -/
def nextItem (first : Bool) (text : List Char) : Except Fault (Bool × List Char) :=
  match skipSpace text with
  | [] => refuse .endInList []
  | ']' :: rest => .ok (false, ']' :: rest)
  | c :: rest =>
    if first then .ok (true, c :: rest)
    else if c = ',' then
      match skipSpace rest with
      | ']' :: rest => refuse .trailingComma (']' :: rest)
      | [] => refuse .endInValue []
      | rest => .ok (true, rest)
    else refuse .expectedListCommaOrEnd (c :: rest)

/-- Moves behind the quote that opens the next key of an object, or finds that there is none. -/
def nextKey (first : Bool) (text : List Char) : Except Fault (Bool × List Char) :=
  match skipSpace text with
  | [] => refuse .endInObject []
  | '\x7d' :: rest => .ok (false, '\x7d' :: rest)
  | c :: rest =>
    if first then key (c :: rest)
    else if c = ',' then key (skipSpace rest)
    else refuse .expectedObjectCommaOrEnd (c :: rest)
where
  key : List Char → Except Fault (Bool × List Char)
    | '"' :: rest => .ok (true, rest)
    | '\x7d' :: rest => refuse .trailingComma ('\x7d' :: rest)
    | [] => refuse .endInValue []
    | rest => refuse .keyMustBeString rest

/-- The colon behind a key. -/
def readColon (text : List Char) : Except Fault (List Char) :=
  match skipSpace text with
  | ':' :: rest => .ok rest
  | [] => refuse .endInObject []
  | rest => refuse .expectedColon rest

/-- The end of a list. -/
def endList (text : List Char) : Except Fault (List Char) :=
  match skipSpace text with
  | ']' :: rest => .ok rest
  | ',' :: rest =>
    match skipSpace rest with
    | ']' :: rest => refuse .trailingComma (']' :: rest)
    | rest => refuse .trailingCharacters rest
  | [] => refuse .endInList []
  | rest => refuse .trailingCharacters rest

/-- The end of an object. -/
def endObject (text : List Char) : Except Fault (List Char) :=
  match skipSpace text with
  | '\x7d' :: rest => .ok rest
  | ',' :: rest => refuse .trailingComma (',' :: rest)
  | [] => refuse .endInObject []
  | rest => refuse .trailingCharacters rest

/-- The end of a text. -/
def endText (text : List Char) : Except Fault Unit :=
  match skipSpace text with
  | [] => .ok ()
  | rest => refuse .trailingCharacters rest

/-! ## Values -/

/-- A number as a value, the sign not yet taken; skimming makes nothing of it. -/
def readScalarNumber (skim : Bool) (text : List Char) : Except Fault (Value × List Char) :=
  let (positive, digits) := match text with
    | '-' :: rest => (false, rest)
    | text => (true, text)
  if skim then (skimNumber digits).map fun rest => (.null, rest)
  else (readNumber positive digits).map fun (n, rest) =>
    match n with
    | .int n => (.int n, rest)
    | .float x => (.float x, rest)

mutual

/-- One value. The text bounds the depth and the number of steps. -/
def readValue (skim : Bool) : Nat → List Char → Except Fault (Value × List Char)
  | 0, text => refuse .expectedValue text
  | fuel + 1, text =>
    match skipSpace text with
    | [] => refuse .endInValue []
    | 'n' :: rest => (readWord ['u', 'l', 'l'] rest).map fun rest => (.null, rest)
    | 't' :: rest => (readWord ['r', 'u', 'e'] rest).map fun rest => (.bool true, rest)
    | 'f' :: rest => (readWord ['a', 'l', 's', 'e'] rest).map fun rest => (.bool false, rest)
    | '"' :: rest => (readText skim rest).map fun (s, rest) => (.str s, rest)
    | '[' :: rest => do
      let (items, rest) ← readItems skim fuel true rest
      let rest ← endList rest
      pure (.arr items, rest)
    | '\x7b' :: rest => do
      let (members, rest) ← readMembers skim fuel true rest
      let rest ← endObject rest
      pure (.ofMembers members, rest)
    | c :: rest =>
      if c = '-' ∨ isDecimal c then readScalarNumber skim (c :: rest)
      else refuse .expectedValue (c :: rest)

/-- The items of a list from here on. -/
def readItems (skim : Bool) : Nat → Bool → List Char → Except Fault (List Value × List Char)
  | 0, _, text => refuse .endInList text
  | fuel + 1, first, text => do
    let (more, rest) ← nextItem first text
    if more then
      let (item, rest) ← readValue skim fuel rest
      let (items, rest) ← readItems skim fuel false rest
      pure (item :: items, rest)
    else pure ([], rest)

/-- The members of an object from here on. -/
def readMembers (skim : Bool) :
    Nat → Bool → List Char → Except Fault (List (String × Value) × List Char)
  | 0, _, text => refuse .endInObject text
  | fuel + 1, first, text => do
    let (more, rest) ← nextKey first text
    if more then
      let (key, rest) ← readText skim rest
      let rest ← readColon rest
      let (value, rest) ← readValue skim fuel rest
      let (members, rest) ← readMembers skim fuel false rest
      pure ((key, value) :: members, rest)
    else pure ([], rest)

end

/-- The value at the front of a text. -/
def value (skim : Bool) (text : List Char) : Except Fault (Value × List Char) :=
  readValue skim (2 * text.length + 2) text

/-- A whole text as one value. -/
def parse (text : List Char) : Except Fault Value := do
  let (v, rest) ← value false text
  endText rest
  pure v

end Descent.Json
