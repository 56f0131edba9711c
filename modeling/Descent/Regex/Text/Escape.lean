import Descent.Regex.Text.Flags
import Descent.Unicode.Named

/-!
# Escapes of a pattern

What a backslash begins: a character by its letter, number or itself, a class, or a condition on
the place. Letters and digits without a meaning are refused, as is everything that would need
memory of earlier matches.
-/

namespace Descent.Regex.Text

/-- The smallest pieces of a pattern. -/
inductive Atom where
  /-- One character; `byte` tells that it was written as two hexadecimal digits. -/
  | char (c : Char) (byte : Bool)
  /-- A class that was written with a letter. -/
  | set (chars : CharClass)
  | anchor (anchor : Anchor)

/-! ## Characters -/

/-- The characters with a meaning of their own. -/
def isMeta (c : Char) : Bool :=
  "\\.+*?()|[]\x7b\x7d^$#&-~".toList.contains c

/-- The characters that a backslash turns into themselves. -/
def isEscapable (c : Char) : Bool :=
  isMeta c || (c.toNat < 0x80 && !c.isAlphanum && c != '<' && c != '>')

/-- The control character that a letter stands for. -/
def controlOf? : Char → Option Char
  | 'a' => some '\x07'
  | 'f' => some '\x0c'
  | 't' => some '\t'
  | 'n' => some '\n'
  | 'r' => some '\r'
  | 'v' => some '\x0b'
  | _ => none

/-- Takes a fixed number of hexadecimal digits. -/
def takeHex? (extended : Bool) : Nat → List Char → Option (List Char × List Char)
  | 0, text => some ([], text)
  | _ + 1, [] => none
  | n + 1, c :: rest =>
    if (digit? c).isSome then
      (takeHex? extended n (skip extended rest)).map fun (digits, left) => (c :: digits, left)
    else none

/-- A character by its number, behind `x`, `u` or `U`: in braces, or with `width` digits. -/
def readHex? (extended : Bool) (width : Nat) (text : List Char) :
    Option (Atom × List Char) :=
  match skip extended text with
  | '\x7b' :: rest =>
    let body := skip extended rest
    let (digits, left) := takeSkipping extended (fun c => (digit? c).isSome) body.length body
    match left with
    | '\x7d' :: left =>
      if digits.isEmpty then none
      else (charOfCode? (number 16 digits)).map fun c => (.char c false, skip extended left)
    | _ => none
  | text => do
    let (digits, left) ← takeHex? extended width text
    let c ← charOfCode? (number 16 digits)
    pure (.char c (width == 2), left)

/-! ## Classes -/

/-- A class as the flags read it: outside Unicode mode it has to stay within ASCII, where a
complement never is. -/
def CharClass.under? (flags : Flags) (negated : Bool) (chars : CharClass) : Option CharClass :=
  let closed := if flags.caseInsensitive then .folded chars else chars
  if flags.unicode then some (if negated then .complement closed else closed)
  else if negated then none
  else some (.inter closed .ascii)

/-- The property between the braces behind `p`, by name or by name and value. -/
def namedProperty? (name : List Char) : Option (Unicode.Property × Bool) :=
  match splitAtPair name with
  | some (name, value) => (Unicode.Property.ofNameValue? name value).map fun p => (p, true)
  | none =>
    match name.span (· != ':') with
    | (name, ':' :: value) => (Unicode.Property.ofNameValue? name value).map fun p => (p, false)
    | _ =>
      match name.span (· != '=') with
      | (name, '=' :: value) =>
        (Unicode.Property.ofNameValue? name value).map fun p => (p, false)
      | _ => (Unicode.Property.ofName? name).map fun p => (p, false)
where
  /-- Splits at the first exclamation mark with an equals sign behind it. -/
  splitAtPair : List Char → Option (List Char × List Char)
    | [] => none
    | '!' :: '=' :: rest => some ([], rest)
    | c :: rest => (splitAtPair rest).map fun (name, value) => (c :: name, value)

/-- A class by property, behind `p` or `P`. -/
def readProperty? (flags : Flags) (negated : Bool) (text : List Char) :
    Option (Atom × List Char) := do
  let (name, rest) ←
    match skip flags.extended text with
    | '\x7b' :: rest =>
      let body := skip flags.extended rest
      let (name, left) := takeSkipping flags.extended (· != '\x7d') body.length body
      match left with
      | _ :: left => some (name, left)
      | [] => none
    | '\\' :: _ => none
    | c :: rest => some ([c], skip flags.extended rest)
    | [] => none
  let (property, unequal) ← namedProperty? name
  if flags.unicode then
    let chars ← CharClass.under? flags (negated != unequal) (.property property)
    pure (.set chars, rest)
  else none

/-- Digits, white space and word characters, and their complements. -/
def shorthand? (flags : Flags) : Char → Option (Option CharClass)
  | 'd' => some (some (.digit flags.unicode))
  | 's' => some (some (.space flags.unicode))
  | 'w' => some (some (.word flags.unicode))
  | 'D' => some (outside (.digit true))
  | 'S' => some (outside (.space true))
  | 'W' => some (outside (.word true))
  | _ => none
where
  /-- A complement reaches beyond ASCII. -/
  outside (chars : CharClass) : Option CharClass :=
    if flags.unicode then some (.complement chars) else none

/-! ## Conditions -/

/-- Whether a letter may occur in the name of a word boundary. -/
def isBoundaryLetter (c : Char) : Bool := c.isAlpha || c == '-'

/-- The rest of a word boundary: a name in braces makes it one-sided. Braces that do not begin with
a letter belong to a repetition. -/
def readBoundary? (flags : Flags) (text : List Char) : Option (Atom × List Char) :=
  let plain := some (Atom.anchor (.wordBoundary flags.unicode), text)
  match text with
  | '\x7b' :: rest =>
    let body := skip flags.extended rest
    match body with
    | [] => none
    | c :: _ =>
      if isBoundaryLetter c then
        let (name, left) := takeSkipping flags.extended isBoundaryLetter body.length body
        match left with
        | '\x7d' :: left => (named? name).map fun a => (.anchor a, left)
        | _ => none
      else plain
  | _ => plain
where
  named? (name : List Char) : Option Anchor :=
    if name = "start".toList then some (.wordStart flags.unicode)
    else if name = "end".toList then some (.wordEnd flags.unicode)
    else if name = "start-half".toList then some (.wordStartHalf flags.unicode)
    else if name = "end-half".toList then some (.wordEndHalf flags.unicode)
    else none

/-- The condition that a letter stands for. -/
def conditionOf? (flags : Flags) : Char → Option Anchor
  | 'A' => some .textStart
  | 'z' => some .textEnd
  | 'B' => some (.notWordBoundary flags.unicode)
  | '<' => some (.wordStart flags.unicode)
  | '>' => some (.wordEnd flags.unicode)
  | _ => none

/-! ## Escapes -/

/-- What stands behind a backslash. -/
def readEscape? (flags : Flags) : List Char → Option (Atom × List Char)
  | [] => none
  | 'x' :: rest => readHex? flags.extended 2 rest
  | 'u' :: rest => readHex? flags.extended 4 rest
  | 'U' :: rest => readHex? flags.extended 8 rest
  | 'p' :: rest => readProperty? flags false rest
  | 'P' :: rest => readProperty? flags true rest
  | 'b' :: rest => readBoundary? flags rest
  | c :: rest =>
    match shorthand? flags c with
    | some chars => chars.map fun chars => (.set chars, rest)
    | none =>
      if isEscapable c then some (.char c false, rest)
      else
        match controlOf? c with
        | some control => some (.char control false, rest)
        | none => (conditionOf? flags c).map fun a => (.anchor a, rest)

end Descent.Regex.Text
