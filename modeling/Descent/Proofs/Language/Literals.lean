import Descent.Proofs.Calculator.Value
import Descent.Proofs.Decimal.Numeral
import Descent.Proofs.Json.Pieces
import Descent.Proofs.Language.Lexers
import Descent.Proofs.Regex.Description

/-!
# Numbers and strings of the example languages

What the lexers take for a number or a string is described by a pattern, and what it denotes is read
by a reader of its own. The two do not agree on everything. The digits of the patterns are those of
all scripts, those of the readers are ASCII; and the pattern of JSON strings lets control characters
pass, the escape `\v`, and halves of surrogate pairs. Apart from that, whatever the lexers take is
read (`literals_read_iff`).
-/

namespace Descent

/-! ## Classes -/

namespace CharClass

theorem holds_single {a c : Char} : (single a).holds c = true ↔ c = a := by
  rw [single, holds, Bool.and_eq_true, decide_eq_true_iff, decide_eq_true_iff]
  exact ⟨fun h => Char.le_antisymm h.2 h.1, fun h => h ▸ ⟨Char.le_refl c, Char.le_refl c⟩⟩

/-- The class of some characters, one after the other. -/
def ofChars (cs : List Char) : CharClass := cs.foldl (fun cls c => cls.union (single c)) none

theorem holds_foldl_union (cs : List Char) (cls : CharClass) (c : Char) :
    (cs.foldl (fun cls c => cls.union (single c)) cls).holds c = true ↔
      cls.holds c = true ∨ c ∈ cs := by
  induction cs generalizing cls with
  | nil => simp
  | cons d cs ih => rw [List.foldl_cons, ih, holds, Bool.or_eq_true, holds_single, List.mem_cons,
      or_assoc]

theorem holds_ofChars {cs : List Char} {c : Char} : (ofChars cs).holds c = true ↔ c ∈ cs := by
  rw [ofChars, holds_foldl_union]
  exact or_iff_right nofun

end CharClass

/-! ## Tokens of a kind -/

namespace Lexer

variable {κ : Type} {l : Lexer κ}

/-- Whether the texts of all tokens of a kind have a property, if a source has tokens. -/
def TextsHave (l : Lexer κ) (source : String) (kind : κ) (P : String → Prop) : Prop :=
  ∀ ts, l.tokenize source = .ok ts → ∀ t ∈ ts, t.kind = kind → P t.value

/-- Tokens have what all texts have that the pattern declared for their kind describes. -/
theorem Alternates.textsHave [TokenKind κ] {defs : List (TokenDef κ)} (h : l.Alternates)
    (hl : build defs = .ok l) {kind : κ} {P : String → Prop} (pattern : String) (r : Regex)
    (hpattern : ∀ d ∈ defs, d.kind = kind → d.pattern = pattern)
    (hr : Regex.ofText? pattern.toList = some r)
    (hP : ∀ text, r.Describes text → P (.ofList text)) (source : String) :
    l.TextsHave source kind P := by
  intro ts hts t ht hkind
  obtain ⟨d, hd, -, hdkind, r', p, m, hr', hm, hvalue⟩ := h.exists_def_of_mem hl hts ht
  rw [hpattern d hd (hdkind.trans hkind), hr] at hr'
  obtain rfl := Option.some.inj hr'
  rw [hvalue]
  exact hP _ (Regex.describes_of_matchAt? hm)

end Lexer

/-! ## Numbers -/

namespace Regex

/-- One or more decimal digits of any script. -/
def digits : Regex := plus (one (.property .digit)) true

/-- Digits, perhaps with a fraction. -/
def unsigned : Regex := seq digits (optional (seq (one (.single '.')) digits) true)

theorem areDigits_of_describes {text : List Char} (h : digits.Describes text) :
    Decimal.AreDigits text := by
  obtain ⟨rounds, hne, rfl, hrounds⟩ := h
  have hround : ∀ round ∈ rounds, ∃ c, Unicode.Property.digit.holds c = true ∧ round = [c] :=
    hrounds
  refine ⟨fun hnil => ?_, fun c hc => ?_⟩
  · obtain ⟨round, rest, rfl⟩ := List.exists_cons_of_ne_nil hne
    obtain ⟨c, -, rfl⟩ := hround round List.mem_cons_self
    nomatch hnil
  · obtain ⟨round, hmem, hc⟩ := List.mem_flatten.1 hc
    obtain ⟨d, hd, rfl⟩ := hround round hmem
    exact List.mem_singleton.1 hc ▸ hd

theorem unsigned_of_describes {text : List Char} (h : unsigned.Describes text) :
    Decimal.Unsigned text := by
  obtain ⟨whole, tail, rfl, hwhole, rfl | ⟨point, fraction, rfl, ⟨c, hc, rfl⟩, hfraction⟩⟩ := h
  · rw [List.append_nil]
    exact .whole (areDigits_of_describes hwhole)
  · obtain rfl := CharClass.holds_single.1 hc
    exact .point (areDigits_of_describes hwhole) (areDigits_of_describes hfraction)

end Regex

/-- Whether a text is read as a float if and only if it is all ASCII. -/
def ReadIfAscii (text : String) : Prop :=
  (Decimal.float? text.toList).isSome = true ↔ IsAscii text.toList

theorem NumberList.readIfAscii (source : String) :
    lexer.TextsHave source .number ReadIfAscii := by
  refine alternates_lexer.textsHave build_definitions "-?\\d+(?:\\.\\d+)?"
    (.seq (.optional (.one (.single '-')) true) .unsigned) (by decide) (by decide) ?_ source
  rintro _ ⟨sign, text, rfl, hsign, htext⟩
  rw [ReadIfAscii, String.toList_ofList]
  refine Decimal.isSome_float?_iff ?_ (Regex.unsigned_of_describes htext)
  refine hsign.imp id fun ⟨c, hc, h⟩ => ?_
  rw [h, CharClass.holds_single.1 hc]

theorem Calculator.readIfAscii (source : String) :
    lexer.TextsHave source .number ReadIfAscii := by
  refine alternates_lexer.textsHave build_definitions "\\d+(?:\\.\\d+)?" .unsigned (by decide)
    (by decide) (fun text htext => ?_) source
  rw [ReadIfAscii, String.toList_ofList]
  exact Decimal.isSome_float?_iff (Or.inl rfl) (Regex.unsigned_of_describes htext)

/-! ## Strings -/

namespace JsonDocument

open Json (Piece)

/-- A hexadecimal digit. -/
def hexDigit : CharClass :=
  [('0', '9'), ('a', 'f'), ('A', 'F')].foldl (fun cls run => cls.union (.range run.1 run.2)) .none

/-- A piece of a string. -/
def pieceRegex : Regex :=
  .alt (.one (.complement (.ofChars ['\\', '"'])))
    (.seq (.one (.single '\\'))
      (.alt (.one (.ofChars Json.escapeLetters))
        (.seqs (.one (.single 'u') :: List.replicate 4 (.one hexDigit)))))

/-- What the lexer takes for a string. -/
def stringRegex : Regex :=
  .seq (.one (.single '"')) (.seq (.star pieceRegex true) (.one (.single '"')))

theorem isSome_hex?_of_holds {c : Char} (h : hexDigit.holds c = true) :
    (Json.hex? c).isSome = true := by
  simp only [hexDigit, List.foldl_cons, List.foldl_nil, CharClass.holds, Bool.or_eq_true,
    Bool.and_eq_true, decide_eq_true_eq, Bool.false_eq_true, false_or] at h
  unfold Json.hex?
  split
  · rfl
  split
  · rfl
  split
  · rfl
  next hdigit hlower hupper => exact absurd h (by simp [hdigit, hlower, hupper])

theorem exists_piece_of_describes {text : List Char} (h : pieceRegex.Describes text) :
    ∃ piece : Piece, piece.text = text ∧ piece.isPlausible = true := by
  obtain ⟨c, hc, rfl⟩ | ⟨_, _, rfl, ⟨c, hc, rfl⟩, ⟨d, hd, rfl⟩ | hunit⟩ := h
  · rw [CharClass.holds, Bool.not_eq_true', Bool.eq_false_iff, Ne, CharClass.holds_ofChars,
      List.mem_cons, List.mem_singleton, not_or] at hc
    exact ⟨.plain c, rfl, by rw [Piece.isPlausible, bne_iff_ne.2 hc.1, bne_iff_ne.2 hc.2]; rfl⟩
  · obtain rfl := CharClass.holds_single.1 hc
    exact ⟨.letter d, rfl, List.contains_iff_mem.2 (CharClass.holds_ofChars.1 hd)⟩
  -- an escape by number
  · obtain rfl := CharClass.holds_single.1 hc
    obtain ⟨_, _, rfl, ⟨u, hu, rfl⟩, _, _, rfl, ⟨a, ha, rfl⟩, _, _, rfl, ⟨b, hb, rfl⟩, _, _, rfl,
      ⟨d, hd, rfl⟩, ⟨e, he, rfl⟩⟩ := hunit
    obtain rfl := CharClass.holds_single.1 hu
    refine ⟨.unit a b d e, rfl, List.all_eq_true.2 ?_⟩
    intro digit hdigit
    simp only [List.mem_cons, List.not_mem_nil, or_false] at hdigit
    obtain rfl | rfl | rfl | rfl := hdigit
    · exact isSome_hex?_of_holds ha
    · exact isSome_hex?_of_holds hb
    · exact isSome_hex?_of_holds hd
    · exact isSome_hex?_of_holds he

theorem exists_pieces_of_describes {rounds : List (List Char)}
    (h : ∀ round ∈ rounds, pieceRegex.Describes round) :
    ∃ pieces : List Piece, pieces.flatMap Piece.text = rounds.flatten ∧
      ∀ piece ∈ pieces, piece.isPlausible = true := by
  induction rounds with
  | nil => exact ⟨[], rfl, List.forall_mem_nil _⟩
  | cons round rounds ih =>
    obtain ⟨hround, hrounds⟩ := List.forall_mem_cons.1 h
    obtain ⟨piece, htext, hpiece⟩ := exists_piece_of_describes hround
    obtain ⟨pieces, htexts, hpieces⟩ := ih hrounds
    exact ⟨piece :: pieces, by rw [List.flatMap_cons, List.flatten_cons, htext, htexts],
      List.forall_mem_cons.2 ⟨hpiece, hpieces⟩⟩

/-- Whether a text is pieces between quotes and is read if and only if these make up a string. -/
def ReadIfString (text : String) : Prop :=
  ∃ pieces : List Piece, text.toList = '"' :: (pieces.flatMap Piece.text ++ ['"']) ∧
    (∀ piece ∈ pieces, piece.isPlausible = true) ∧
    ((∃ s, stringOf text = .ok s) ↔ Json.isString pieces = true)

theorem exists_stringOf_iff (text : String) :
    (∃ s, stringOf text = .ok s) ↔ ∃ s, Json.decode Json.string text.toList = .ok s := by
  rw [stringOf]
  cases Json.decode Json.string text.toList with
  | error e => exact iff_of_false nofun nofun
  | ok s => exact iff_of_true ⟨s, rfl⟩ ⟨s, rfl⟩

theorem readIfString (source : String) : lexer.TextsHave source .string ReadIfString := by
  refine alternates_lexer.textsHave build_definitions stringPattern stringRegex (by decide)
    (by decide) ?_ source
  rintro _ ⟨_, _, rfl, ⟨c, hc, rfl⟩, _, _, rfl, ⟨rounds, rfl, hrounds⟩, ⟨d, hd, rfl⟩⟩
  obtain rfl := CharClass.holds_single.1 hc
  obtain rfl := CharClass.holds_single.1 hd
  obtain ⟨pieces, htext, hpieces⟩ := exists_pieces_of_describes hrounds
  refine ⟨pieces, by rw [String.toList_ofList, htext]; rfl, hpieces, ?_⟩
  rw [exists_stringOf_iff, String.toList_ofList, ← htext]
  exact Json.decode_string_iff hpieces

end JsonDocument

/-! ## All of them -/

/-- A number is read if it is all ASCII, a string of JSON if control characters are escaped, no
letter of an escape is a `v` and surrogates are paired; and not otherwise. -/
theorem literals_read_iff (source : String) :
    NumberList.lexer.TextsHave source .number ReadIfAscii ∧
      Calculator.lexer.TextsHave source .number ReadIfAscii ∧
        JsonDocument.lexer.TextsHave source .string JsonDocument.ReadIfString :=
  ⟨NumberList.readIfAscii source, Calculator.readIfAscii source, JsonDocument.readIfString source⟩

/-- Numbers of two scripts, with a sign and with a fraction, and a string with a surrogate pair. -/
theorem literals_read_iff_mixed :
    let list : List (Token NumberList.Kind) :=
      [⟨.leftBracket, "[", ⟨⟨0, 0⟩, ⟨0, 1⟩⟩, 0⟩, ⟨.number, "-1.5", ⟨⟨0, 1⟩, ⟨0, 5⟩⟩, 1⟩,
       ⟨.comma, ",", ⟨⟨0, 5⟩, ⟨0, 6⟩⟩, 5⟩, ⟨.number, "٣", ⟨⟨0, 6⟩, ⟨0, 7⟩⟩, 6⟩,
       ⟨.rightBracket, "]", ⟨⟨0, 7⟩, ⟨0, 8⟩⟩, 8⟩]
    let sum : List (Token Calculator.Kind) :=
      [⟨.number, "1.5", ⟨⟨0, 0⟩, ⟨0, 3⟩⟩, 0⟩, ⟨.plus, "+", ⟨⟨0, 3⟩, ⟨0, 4⟩⟩, 3⟩,
       ⟨.number, "٣", ⟨⟨0, 4⟩, ⟨0, 5⟩⟩, 4⟩]
    let document : List (Token JsonDocument.Kind) :=
      [⟨.string, "\"a\\ud83d\\ude00\"", ⟨⟨0, 0⟩, ⟨0, 15⟩⟩, 0⟩]
    (NumberList.lexer.tokenize "[-1.5,٣]" = .ok list ∧
      ∀ t ∈ list, t.kind = .number → ReadIfAscii t.value) ∧
    (Calculator.lexer.tokenize "1.5+٣" = .ok sum ∧
      ∀ t ∈ sum, t.kind = .number → ReadIfAscii t.value) ∧
    (JsonDocument.lexer.tokenize "\"a\\ud83d\\ude00\"" = .ok document ∧
      ∀ t ∈ document, t.kind = .string → JsonDocument.ReadIfString t.value) := by
  intro list sum document
  have hlist : NumberList.lexer.tokenize "[-1.5,٣]" = .ok list := by
    set_option maxRecDepth 4000 in decide
  have hsum : Calculator.lexer.tokenize "1.5+٣" = .ok sum := by
    set_option maxRecDepth 4000 in decide
  have hdocument : JsonDocument.lexer.tokenize "\"a\\ud83d\\ude00\"" = .ok document := by
    set_option maxRecDepth 4000 in decide
  exact ⟨⟨hlist, (literals_read_iff _).1 _ hlist⟩, ⟨hsum, (literals_read_iff _).2.1 _ hsum⟩,
    hdocument, (literals_read_iff _).2.2 _ hdocument⟩

/-- Not every number is read, for a digit may be of another script, and not every string, for it may
have an escape by the letter `v`. -/
theorem literals_refused :
    (¬NumberList.lexer.TextsHave "٣" .number fun text =>
        (Decimal.float? text.toList).isSome = true) ∧
      (¬Calculator.lexer.TextsHave "٣" .number fun text =>
        (Decimal.float? text.toList).isSome = true) ∧
        ¬JsonDocument.lexer.TextsHave "\"\\v\"" .string fun text =>
          ∃ s, JsonDocument.stringOf text = .ok s := by
  refine ⟨fun h => ?_, fun h => ?_, fun h => ?_⟩
  · have hts : NumberList.lexer.tokenize "٣" = .ok [⟨.number, "٣", ⟨⟨0, 0⟩, ⟨0, 1⟩⟩, 0⟩] := by
      set_option maxRecDepth 4000 in decide
    exact absurd (h _ hts _ List.mem_cons_self rfl) (by decide)
  · have hts : Calculator.lexer.tokenize "٣" = .ok [⟨.number, "٣", ⟨⟨0, 0⟩, ⟨0, 1⟩⟩, 0⟩] := by
      set_option maxRecDepth 4000 in decide
    exact absurd (h _ hts _ List.mem_cons_self rfl) (by decide)
  · have hts : JsonDocument.lexer.tokenize "\"\\v\""
        = .ok [⟨.string, "\"\\v\"", ⟨⟨0, 0⟩, ⟨0, 4⟩⟩, 0⟩] := by
      set_option maxRecDepth 4000 in decide
    obtain ⟨s, hs⟩ := h _ hts _ List.mem_cons_self rfl
    nomatch hs

end Descent
