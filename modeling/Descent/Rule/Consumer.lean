import Descent.Cursor
import Descent.Trace

/-!
# Consumers

A consumer looks at a token list from a cursor on. It ends with a value or a failure, with a cursor
and with the notes it made on the way; a run that never ends is `none`. The combinators below are
the meaning of the rules of a grammar, one each. They say nothing about recursion, so each can be
understood with any consumers for its parts, badly behaved ones included.

What is common to them: a combinator that may fail after one of its parts has succeeded gives back
the cursor it was called with. Only `cut`, `named` and `map` pass on the cursor of their part as it
is.
-/

namespace Descent

/-- How a run of a consumer ended. -/
structure Step (κ α : Type) where
  outcome : Except Failure α
  cursor : Cursor
  log : List (Event κ)

namespace Step

variable {κ α β : Type}

/-- A success. -/
def ok (value : α) (cursor : Cursor) : Step κ α := ⟨.ok value, cursor, []⟩

/-- A failure. -/
def fail (failure : Failure) (cursor : Cursor) : Step κ α := ⟨.error failure, cursor, []⟩

/-- The same end after earlier notes. -/
def after (notes : List (Event κ)) (s : Step κ α) : Step κ α := { s with log := notes ++ s.log }

/-- The same end with a note behind. -/
def note (s : Step κ α) (event : Event κ) : Step κ α := { s with log := s.log ++ [event] }

end Step

/-- A function of the token list and the cursor that may fail to end. -/
abbrev Consumer (κ α : Type) := List (Token κ) → Cursor → Option (Step κ α)

namespace Consumer

variable {κ α β : Type}

/-! ## Tokens -/

/-- The complaint that the tokens from `start` on are not the `count` tokens asked for. -/
def mismatch (tokens : List (Token κ)) (start : Cursor) (count : Nat) : ParseError :=
  match tokens[start]? with
  | none => .ofReason .unexpectedEnd
  | some first =>
    let text := ((tokens.drop start).take count).map (·.value)
    .located (.unmatched (String.join text)) (some first)

/-- Tokens of exactly these kinds, in order. A value that `build` refuses fails at the first of the
tokens. -/
def tokens [DecidableEq κ] (kinds : List κ) (build : List (Token κ) → Except String α) :
    Consumer κ α := fun ts p =>
  let run := (ts.drop p).take kinds.length
  if p ≤ ts.length ∧ run.map (·.kind) = kinds then
    match build run with
    | .ok value => some (.ok value (p.advance kinds.length))
    | .error message => some (.fail (.backtrack (.located (.custom message) ts[p]?)) p)
  else some (.fail (.backtrack (mismatch ts p kinds.length)) p)

/-! ## Sequences -/

/-- Consumers one after another, up to the first that fails; a failure leaves the cursor where that
consumer left it. -/
def inOrder : List (Consumer κ α) → Consumer κ (List α)
  | [], _, p => some (.ok [] p)
  | first :: rest, ts, p =>
    (first ts p).bind fun s =>
      match s.outcome with
      | .error failure => some ⟨.error failure, s.cursor, s.log⟩
      | .ok value =>
        (inOrder rest ts s.cursor).map fun t =>
          ⟨t.outcome.map (value :: ·), t.cursor, s.log ++ t.log⟩

/-- Consumers one after another, and a value made of theirs. A value that `build` refuses fails at
the token behind the last one taken. -/
def sequence (parts : List (Consumer κ α)) (build : List α → Except String β) :
    Consumer κ β := fun ts p =>
  (inOrder parts ts p).map fun s =>
    match s.outcome with
    | .error failure => ⟨.error failure, p, s.log⟩
    | .ok values =>
      match build values with
      | .ok value => ⟨.ok value, s.cursor, s.log⟩
      | .error message =>
        ⟨.error (.backtrack (.located (.custom message) ts[s.cursor]?)), p, s.log⟩

/-! ## Choices -/

end Consumer

/-- Which error a choice reports when every alternative has failed. -/
inductive ErrorPolicy where
  /-- The token at which the choice was made. -/
  | entry
  /-- The error of the alternative that came furthest. -/
  | furthest
deriving DecidableEq, Repr

namespace Consumer

variable {κ α β : Type}

/-- The further of an earlier and a new error; the earlier one unless the new one is strictly
further. -/
def furtherOf (best : Option ParseError) (e : ParseError) : ParseError :=
  match best with
  | none => e
  | some best => if e.isFurtherThan best then e else best

/-- The error of a choice whose alternatives have all failed. -/
def exhausted (policy : ErrorPolicy) (best : Option ParseError) (ts : List (Token κ))
    (p : Cursor) : ParseError :=
  match policy, best with
  | .furthest, some e => e
  | _, _ => .unexpected ts p

/-- The alternatives from the one with a given index on, where `best` is the furthest error of
those before it. -/
def choiceFrom (policy : ErrorPolicy) (ts : List (Token κ)) (p : Cursor) :
    Nat → Option ParseError → List (Consumer κ α) → Option (Step κ α)
  | _, best, [] => some (.fail (.backtrack (exhausted policy best ts p)) p)
  | index, best, alternative :: rest =>
    (alternative ts p).bind fun s =>
      match s.outcome with
      | .ok _ => some s
      | .error (.cut e) => some ⟨.error (.cut e), p, s.log ++ [.alternativeCut index e]⟩
      | .error (.backtrack e) =>
        (choiceFrom policy ts p (index + 1) (some (furtherOf best e)) rest).map
          (.after (s.log ++ [.alternativeFailed index e]))

/-- The first alternative that does not fail ordinarily: its value, or its cut. -/
def choice (policy : ErrorPolicy) (alternatives : List (Consumer κ α)) : Consumer κ α :=
  fun ts p => choiceFrom policy ts p 0 none alternatives

/-! ## Options and looking ahead -/

/-- The part or nothing. Every failure counts as absence, a cut too. -/
def optional (part : Consumer κ α) : Consumer κ (Option α) := fun ts p =>
  (part ts p).map fun s =>
    match s.outcome with
    | .ok value => ⟨.ok (some value), s.cursor, s.log⟩
    | .error (.backtrack _) => ⟨.ok none, p, s.log⟩
    | .error (.cut e) => ⟨.ok none, p, s.log ++ [.cutAbsorbed e]⟩

/-- The part without moving. A cut comes back as an ordinary failure. -/
def lookahead (part : Consumer κ α) : Consumer κ α := fun ts p =>
  (part ts p).map fun s => ⟨s.outcome.mapError Failure.toBacktrack, p, s.log⟩

/-! ## Lists -/

/-- Items from a cursor on, with `count` items before them. Every item after the first needs a
delimiter in front, so a list without end visits some delimiter twice: one round more than there are
tokens is fuel enough. -/
def itemsFrom [DecidableEq κ] (item : Consumer κ α) (delimiter : κ) (ts : List (Token κ)) :
    Nat → Nat → Cursor → Option (Step κ (List α))
  | 0, _, _ => none
  | fuel + 1, count, p =>
    (item ts p).bind fun s =>
      match s.outcome with
      | .error failure =>
        if count = 0 then some ⟨.error failure, s.cursor, s.log⟩
        else
          some ⟨.error failure.toCut, s.cursor,
            s.log ++ [.itemFailed count delimiter failure.error]⟩
      | .ok value =>
        if (ts[s.cursor]?).any fun t => t.kind = delimiter then
          (itemsFrom item delimiter ts fuel (count + 1) (s.cursor.advance 1)).map fun t =>
            ⟨t.outcome.map (value :: ·), t.cursor, s.log ++ t.log⟩
        else some ⟨.ok [value], s.cursor, s.log⟩

/-- One or more items with delimiters between them. Behind a delimiter a failure is a cut. -/
def list [DecidableEq κ] (item : Consumer κ α) (delimiter : κ) : Consumer κ (List α) :=
  fun ts p =>
    (itemsFrom item delimiter ts (ts.length + 1) 0 p).map fun s =>
      match s.outcome with
      | .ok values => ⟨.ok values, s.cursor, s.log⟩
      | .error failure => ⟨.error failure, p, s.log⟩

/-! ## Wrappers -/

/-- The part, every failure of which is a cut. -/
def cut (part : Consumer κ α) : Consumer κ α := fun ts p =>
  (part ts p).map fun s => ⟨s.outcome.mapError Failure.toCut, s.cursor, s.log⟩

/-- The part with its value converted. -/
def map (f : α → β) (part : Consumer κ α) : Consumer κ β := fun ts p =>
  (part ts p).map fun s => ⟨s.outcome.map f, s.cursor, s.log⟩

/-- Whether an error arose at the token at which a rule was entered. -/
def isEntryError (e : ParseError) (ts : List (Token κ)) (entry : Cursor) : Bool :=
  e.position == (ts[entry]?).map (·.location.start)

/-- The complaint that something with a name was expected. -/
def expected (name : String) (ts : List (Token κ)) (entry : Cursor) : ParseError :=
  .located (.expected name ((ts[entry]?).map (·.value))) ts[entry]?

/-- The part under a name. An ordinary failure at the first token says what was expected there. -/
def named (name : String) (part : Consumer κ α) : Consumer κ α := fun ts p =>
  (part ts p).map fun s =>
    .after [.trying name p] <|
      match s.outcome with
      | .ok _ => s.note (.matched name p s.cursor)
      | .error (.backtrack e) =>
        if isEntryError e ts p then
          ⟨.error (.backtrack (expected name ts p)), s.cursor, s.log ++ [.missed name p]⟩
        else s.note (.failed name (.backtrack e))
      | .error (.cut e) => s.note (.failed name (.cut e))

/-- A reference that leads nowhere. -/
def undefined : Consumer κ α := fun ts p =>
  some (.fail (.cut (.located .undefined ts[p]?)) p)

end Consumer

end Descent
