import Descent.Json.Text
import Descent.Decimal.Shortest
import Descent.Text.Quoted

/-!
# Reading values of known types

A text is read for a value of a known type, so a value of another type is refused where it stands,
in words that say what was met and what was expected. Structures may be written as objects or as
arrays of their fields in order.
-/

namespace Descent.Json

/-- A reader for one value, which returns the rest of the text. -/
abbrev Decoder (α : Type) := List Char → Except Fault (α × List Char)

/-- A fault that lies not in the form of a text but in what it says. -/
def mismatched {α : Type} (message : String) (rest : List Char) : Except Fault α :=
  stopAt (.data message) rest

/-- Refuses the value at the front of a text, after a look at what it is. -/
def wrongType {α : Type} (expected : String) (text : List Char) : Except Fault α :=
  match text with
  | 'n' :: rest => do
    let rest ← readWord ['u', 'l', 'l'] rest
    refuseAs "null" rest
  | 't' :: rest => do
    let rest ← readWord ['r', 'u', 'e'] rest
    refuseAs "boolean `true`" rest
  | 'f' :: rest => do
    let rest ← readWord ['a', 'l', 's', 'e'] rest
    refuseAs "boolean `false`" rest
  | '"' :: rest => do
    let (s, rest) ← readText false rest
    refuseAs ("string " ++ quoted s) rest
  | '[' :: _ => refuseAs "sequence" text
  | '\x7b' :: _ => refuseAs "map" text
  | c :: rest => do
    if c = '-' then
      let (n, rest) ← readNumber false rest
      refuseAs (describe n) rest
    else if isDecimal c then
      let (n, rest) ← readNumber true text
      refuseAs (describe n) rest
    else refuse .expectedValue text
  | [] => refuse .expectedValue []
where
  refuseAs (found : String) (rest : List Char) : Except Fault α :=
    mismatched ("invalid type: " ++ found ++ ", expected " ++ expected) rest
  describe : Number → String
    | .int n => "integer `" ++ toString n ++ "`"
    | .float x => "floating point `" ++ Decimal.floatText x ++ "`"

/-! ## Scalars -/

/-- A number without sign or fraction. -/
def nat : Decoder Nat := fun text =>
  match skipSpace text with
  | [] => refuse .endInValue []
  | c :: rest =>
    let number :=
      if c = '-' then some (readNumber false rest)
      else if isDecimal c then some (readNumber true (c :: rest))
      else none
    match number with
    | none => wrongType "usize" (c :: rest)
    | some number => do
      let (n, rest) ← number
      match n with
      | .int n =>
        if 0 ≤ n then pure (n.toNat, rest)
        else mismatched ("invalid value: integer `" ++ toString n ++ "`, expected usize") rest
      | .float x =>
        mismatched
          ("invalid type: floating point `" ++ Decimal.floatText x ++ "`, expected usize") rest

/-- A string. -/
def string : Decoder String := fun text =>
  match skipSpace text with
  | [] => refuse .endInValue []
  | '"' :: rest => readText false rest
  | text => wrongType "a string" text

/-- The word for no value. -/
def unit : Decoder Unit := fun text =>
  match skipSpace text with
  | [] => refuse .endInValue []
  | 'n' :: rest => (readWord ['u', 'l', 'l'] rest).map fun rest => ((), rest)
  | text => wrongType "unit" text

/-! ## Choices by name -/

/-- The choice with a given name. -/
def variant {α : Type} (variants : List (String × α)) (name : String) (rest : List Char) :
    Except Fault α :=
  match variants.find? (·.1 == name) with
  | some v => .ok v.2
  | none =>
    mismatched
      ("unknown variant `" ++ name ++ "`, expected "
        ++ " or ".intercalate (variants.map fun v => "`" ++ v.1 ++ "`"))
      rest

/-- One of some choices: its name, or an object with the name as its key and null as the value. -/
def choice {α : Type} (variants : List (String × α)) : Decoder α := fun text =>
  match skipSpace text with
  | [] => refuse .endInValue []
  | '"' :: rest => do
    let (name, rest) ← readText false rest
    let v ← variant variants name rest
    pure (v, rest)
  | '\x7b' :: rest => do
    let (name, rest) ←
      match skipSpace rest with
      | [] => refuse .endInValue []
      | '"' :: rest => readText false rest
      | rest => refuse .keyMustBeString rest
    let v ← variant variants name rest
    let rest ← readColon rest
    let (_, rest) ← unit rest
    match skipSpace rest with
    | '\x7d' :: rest => pure (v, rest)
    | [] => stopAt .endInObject []
    | rest => stopAt .expectedValue rest
  | text => refuse .expectedValue text

/-! ## Structures -/

/-- What to do with the members of an object that are not fields. -/
inductive Strays where
  | ignored
  | refused
deriving DecidableEq, Repr

/-- Reads the members of an object as fields of one type, in any order, none twice. -/
def fields {α : Type} (strays : Strays) (names : List String) (field : Decoder α) :
    Nat → Bool → List (String × α) → Decoder (List (String × α))
  | 0, _, _, text => refuse .endInObject text
  | fuel + 1, first, found, text => do
    let (more, rest) ← nextKey first text
    if more then
      let (name, rest) ← readText false rest
      if names.contains name then
        if found.any (·.1 == name) then mismatched ("duplicate field `" ++ name ++ "`") rest
        else
          let rest ← readColon rest
          let (value, rest) ← field rest
          fields strays names field fuel false (found ++ [(name, value)]) rest
      else if strays = .refused then
        mismatched
          ("unknown field `" ++ name ++ "`, expected "
            ++ " or ".intercalate (names.map fun n => "`" ++ n ++ "`"))
          rest
      else
        let rest ← readColon rest
        let (_, rest) ← value true rest
        fields strays names field fuel false found rest
    else pure (found, rest)

/-- Reads the items of an array as the fields with given names, in order; there may be fewer. -/
def items {α : Type} (field : Decoder α) :
    Bool → List String → Decoder (List (String × α))
  | _, [], text => .ok ([], text)
  | first, name :: names, text => do
    let (more, rest) ← nextItem first text
    if more then
      let (value, rest) ← field rest
      let (others, rest) ← items field false names rest
      pure ((name, value) :: others, rest)
    else pure ([], rest)

/-- Which form a structure was written in. -/
inductive Form where
  | object
  | array
deriving DecidableEq, Repr

/-- A structure with fields of one type. What was found is turned into a value by `build`, which is
told the form as well and may refuse. -/
def structured {α β : Type} (expected : String) (strays : Strays) (names : List String)
    (field : Decoder α) (build : Form → List (String × α) → Except String β) : Decoder β :=
  fun text =>
    match skipSpace text with
    | [] => refuse .endInValue []
    | '[' :: rest => do
      let (found, rest) ← items field true names rest
      let v ← built .array found rest
      let rest ← endList rest
      pure (v, rest)
    | '\x7b' :: rest => do
      let (found, rest) ← fields strays names field (rest.length + 1) true [] rest
      let v ← built .object found rest
      let rest ← endObject rest
      pure (v, rest)
    | text => wrongType expected text
where
  built (form : Form) (found : List (String × α)) (rest : List Char) : Except Fault β :=
    match build form found with
    | .ok v => .ok v
    | .error message => mismatched message rest

/-- The values of two fields, both of which have to be there. -/
def bothFields {α : Type} (expected first second : String) (form : Form)
    (found : List (String × α)) : Except String (α × α) :=
  match find first, find second with
  | some a, some b => .ok (a, b)
  | none, _ => .error (missing first)
  | some _, none => .error (missing second)
where
  find (name : String) : Option α := (found.find? (·.1 == name)).map (·.2)
  missing (name : String) : String :=
    match form with
    | .object => "missing field `" ++ name ++ "`"
    | .array =>
      "invalid length " ++ toString found.length ++ ", expected " ++ expected
        ++ " with 2 elements"

/-! ## Whole texts -/

/-- A whole text as one value of a known type. -/
def decode {α : Type} (decoder : Decoder α) (text : List Char) : Except Fault α := do
  let (v, rest) ← decoder text
  endText rest
  pure v

end Descent.Json
