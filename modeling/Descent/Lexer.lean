import Descent.Regex.Match
import Descent.Regex.Text.Pattern
import Descent.Trace

/-!
# Lexers

A lexer is an ordered list of token classes, each with a pattern. The patterns are joined, as text,
into one alternation in which every class has a named group of its own; at a place the first class
whose pattern matches there wins, and the group that took part tells which it was. When the
alternation prefers to take nothing, the classes are asked one after another.

A text is cut into chunks from left to right, each chunk belonging to one class. The tokens are the
chunks whose class is not skipped, and the positions, offsets and notes of a run are read off the
chunks, so the chain of chunks is all that a lexer has to find.
-/

namespace Descent

/-- The definition of a token class: its pattern, and whether matching text is dropped. -/
structure TokenDef (κ : Type) where
  kind : κ
  pattern : String
  skip : Bool := false
deriving DecidableEq, Repr

/-- A token class with its pattern read. -/
structure TokenClass (κ : Type) where
  kind : κ
  pattern : Regex
  skip : Bool
deriving DecidableEq, Repr

namespace TokenClass

variable {κ : Type}

/-- How many characters the class takes at a place, if its preferred match takes any. -/
def matchAt? (c : TokenClass κ) (p : Place) : Option Nat :=
  (c.pattern.find? p).bind fun (skipped, m) =>
    if skipped = 0 ∧ m.length ≠ 0 then some m.length else none

end TokenClass

/-- A lexer: its classes in order of declaration, and their alternation. -/
structure Lexer (κ : Type) where
  classes : List (TokenClass κ)
  splitter : Regex
deriving DecidableEq, Repr

namespace Lexer

variable {κ : Type}

/-! ## Building -/

/-- The name of the group that belongs to the class with a given index. -/
def groupName (index : Nat) : List Char := "ravel_kind_".toList ++ Nat.toDigits 10 index

/-- The text of an alternation of patterns, each in its own group, counted from `index`. -/
def joinFrom (index : Nat) : List (List Char) → List Char
  | [] => []
  | [p] => wrap index p
  | p :: rest => wrap index p ++ '|' :: joinFrom (index + 1) rest
where
  wrap (index : Nat) (pattern : List Char) : List Char :=
    "(?P<".toList ++ groupName index ++ ['>'] ++ pattern ++ [')']

/-- Reads one definition. -/
def readClass [TokenKind κ] (d : TokenDef κ) : Except Error (TokenClass κ) :=
  match Regex.ofText? d.pattern.toList with
  | some pattern => .ok ⟨d.kind, pattern, d.skip⟩
  | none => .error (.pattern (TokenKind.name d.kind))

/-- A lexer from definitions in order. Every pattern has to be valid alone, and then all of them
together. -/
def build [TokenKind κ] (defs : List (TokenDef κ)) : Except Error (Lexer κ) := do
  let classes ← defs.mapM readClass
  match Regex.ofText? (joinFrom 0 (defs.map (·.pattern.toList))) with
  | some splitter => .ok ⟨classes, splitter⟩
  | none => .error .alternation

/-- The lexer without classes, which matches nothing. -/
def empty : Lexer κ := ⟨[], .empty⟩

/-- A lexer from definitions that are known to be valid. -/
def ofDefs [TokenKind κ] (defs : List (TokenDef κ)) : Lexer κ :=
  (build defs).toOption.getD empty

/-! ## One match -/

/-- The first class whose group is among those that took part in a match. -/
def classify? (l : Lexer κ) (groups : List (List Char)) : Option (TokenClass κ) :=
  (l.classes.zipIdx.find? fun entry => groups.contains (groupName entry.2)).map (·.1)

/-- The class that matches at a place and the number of characters it takes, never none. A match
further on is no match here. -/
def matchAt? (l : Lexer κ) (p : Place) : Option (TokenClass κ × Nat) :=
  (l.splitter.find? p).bind fun (skipped, m) =>
    if skipped ≠ 0 then none
    else if m.length ≠ 0 then (l.classify? m.groups).map fun c => (c, m.length)
    -- an earlier class took nothing and hid the others
    else l.classes.findSome? fun c => (c.matchAt? p).map fun n => (c, n)

/-! ## Chunks -/

/-- A piece of text with the class it belongs to. -/
structure Chunk (κ : Type) where
  cls : TokenClass κ
  text : List Char
deriving DecidableEq, Repr

/-- The chunks from a place on, and the place where they end: the end of the text, or the first
place at which nothing matches. A chunk is never empty, so the length of the text is fuel enough. -/
def chunksFrom (l : Lexer κ) : Nat → Place → List (Chunk κ) × Place
  | 0, p => ([], p)
  | fuel + 1, p =>
    if p.after.isEmpty then ([], p)
    else
      match l.matchAt? p with
      | none => ([], p)
      | some (cls, n) =>
        let (chunks, stop) := l.chunksFrom fuel (p.advance n)
        (⟨cls, p.after.take n⟩ :: chunks, stop)

/-- The chunks of a text, and the place where they end. -/
def chunks (l : Lexer κ) (text : List Char) : List (Chunk κ) × Place :=
  l.chunksFrom text.length (.front text)

/-- How many bytes a text takes. -/
def byteLength : List Char → Nat
  | [] => 0
  | c :: rest => c.utf8Size + byteLength rest

/-- How far a text has been passed. -/
structure Mark where
  position : Position
  offset : Nat
deriving DecidableEq, Repr

namespace Mark

/-- In front of a whole text. -/
def start : Mark := ⟨.start, 0⟩

/-- Past some more text. -/
def pass (here : Mark) (text : List Char) : Mark :=
  ⟨here.position.advance text, here.offset + byteLength text⟩

end Mark

/-- The chunks as tokens, the skipped ones among them, where the first begins at a given mark. -/
def located (here : Mark) : List (Chunk κ) → List (TokenClass κ × Token κ)
  | [] => []
  | chunk :: rest =>
    let stop := here.pass chunk.text
    let location := ⟨here.position, stop.position⟩
    (chunk.cls, ⟨chunk.cls.kind, String.ofList chunk.text, location, here.offset⟩)
      :: located stop rest

/-- The mark behind some chunks, the first of which begins at a given mark. -/
def markBehind (here : Mark) (chunks : List (Chunk κ)) : Mark :=
  chunks.foldl (fun here chunk => here.pass chunk.text) here

/-! ## Unmatched text -/

/-- How many places from `p` on, the end of the text apart, match nothing. -/
def gapFrom (l : Lexer κ) : Nat → Place → Nat
  | 0, _ => 0
  | fuel + 1, p =>
    if p.after.isEmpty ∨ (l.matchAt? p).isSome then 0 else l.gapFrom fuel p.next + 1

/-- The error for a place at which nothing matches: it covers the text up to the next place at
which something does. -/
def errorAt (l : Lexer κ) (here : Mark) (p : Place) : LexError :=
  let text := p.after.take (l.gapFrom p.after.length p.next + 1)
  ⟨String.ofList text, here.position, ⟨here.offset, byteLength text⟩⟩

/-! ## Whole texts -/

/-- The tokens of a text. -/
def tokenize (l : Lexer κ) (source : String) : Except LexError (List (Token κ)) :=
  let (chunks, stop) := l.chunks source.toList
  if stop.after.isEmpty then
    .ok ((located .start chunks).filterMap fun entry =>
      if entry.1.skip then none else some entry.2)
  else .error (l.errorAt (markBehind .start chunks) stop)

/-- The notes of tokenizing a text: one for every chunk, also for those before an error. -/
def trace (l : Lexer κ) (source : String) : List (Event κ) :=
  (located .start (l.chunks source.toList).1).map fun entry =>
    .lexed entry.2.kind entry.2.value entry.2.location.start

/-- The note of building the lexer. -/
def builtEvent (l : Lexer κ) : Event κ := .lexerBuilt l.classes.length

end Lexer

end Descent
