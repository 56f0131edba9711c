import Descent.Proofs.Parse
import Descent.Proofs.Lexer.Tokens
import Descent.Proofs.Rule.Failure

/-!
# Errors point at the text

What a caller is told about the place of an error is a position and a span. The lexer reads both off
the text, so those of a token, and those of the text that no pattern matches, belong to a piece of
the text (`PointsAt`). Rules only copy them from a token, and that is one at which a rule has been
entered or which it has come to. So every error of a parse points at a piece of the text, unless it
has arisen behind the last token (`Parser.Places`).
-/

namespace Descent

/-! ## Pieces of a text -/

/-- Whether a position and a span are those of a piece of a text: the piece is not empty, it stands
somewhere in the text, the position is read off the text before it, and the span counts the bytes of
that text and its own. -/
def PointsAt (source : String) (position : Position) (span : Span) (piece : String) : Prop :=
  piece ≠ "" ∧ ∃ before after : String, source = before ++ piece ++ after ∧
    position = .behind before.toList ∧ span = ⟨before.utf8ByteSize, piece.utf8ByteSize⟩

theorem pointsAt_of_toList {source : String} {before piece : List Char} (after : List Char)
    (hsource : source.toList = before ++ piece ++ after) (hne : piece ≠ []) :
    PointsAt source (.behind before)
      ⟨(String.ofList before).utf8ByteSize, (String.ofList piece).utf8ByteSize⟩
      (String.ofList piece) := by
  refine ⟨fun hempty => hne ?_, .ofList before, .ofList after, ?_, ?_, rfl⟩
  · rw [← String.toList_ofList (l := piece), hempty, String.toList_empty]
  · rw [← String.ofList_toList (s := source), hsource, String.ofList_append, String.ofList_append]
  · rw [String.toList_ofList]

namespace Lexer

variable {κ : Type} {l : Lexer κ} {source : String}

/-- A token points at the piece of the text that it was cut from. -/
theorem pointsAt_of_mem_tokens {ts : List (Token κ)} (h : l.tokenize source = .ok ts) {t : Token κ}
    (ht : t ∈ ts) : PointsAt source t.location.start t.span t.value := by
  obtain ⟨chunks, hchain, rfl⟩ := chain_of_tokenize h
  obtain ⟨⟨chunk, i⟩, hentry, rfl⟩ := List.mem_map.1 ht
  obtain ⟨hi, hchunk⟩ := List.mem_zipIdx' (List.mem_filter.1 hentry).1
  have htext : chunks.flatMap (·.text) = source.toList := by
    have happend := hchain.text_append
    rwa [List.append_nil] at happend
  have hne : chunk.text ≠ [] := hchain.text_ne_nil chunk (hchunk ▸ List.getElem_mem hi)
  refine pointsAt_of_toList ((chunks.drop (i + 1)).flatMap (·.text)) ?_ hne
  -- the text is that of the chunks before, of this one, and of those behind
  calc source.toList
      = (chunks.take i ++ chunks.drop i).flatMap (·.text) := by
        rw [List.take_append_drop, htext]
    _ = (chunks.take i).flatMap (·.text) ++ chunk.text
          ++ (chunks.drop (i + 1)).flatMap (·.text) := by
        rw [List.flatMap_append, List.drop_eq_getElem_cons hi, List.flatMap_cons, ← hchunk,
          List.append_assoc]

/-- An error of a lexer points at the piece of the text that it complains about. -/
theorem pointsAt_of_lexError {e : LexError} (h : l.tokenize source = .error e) :
    PointsAt source e.position e.span e.text := by
  obtain ⟨_, before, after, -, -, htext, -, htokenize⟩ := l.tokenize_cases source
  rw [htokenize] at h
  split at h
  · nomatch h
  · next hempty =>
    obtain rfl := Except.error.inj h
    have hafter : after ≠ [] := mt List.isEmpty_iff.2 hempty
    rw [errorAt, Mark.start_pass, byteLength_eq]
    generalize l.gapFrom after.length (Place.next ⟨before.reverse, after⟩) = gap
    refine pointsAt_of_toList (after.drop (gap + 1)) ?_ fun hnil => ?_
    · rw [List.append_assoc, List.take_append_drop, htext]
    · -- the first character at which nothing matches is there
      exact (List.take_eq_nil_iff.1 hnil).elim (Nat.succ_ne_zero gap) hafter

end Lexer

/-! ## Errors of a parse -/

namespace Parser

variable {κ ν : Type} [DecidableEq κ] {P : Parser κ ν} {source : String}

/-- Whether an error points at the text as it should: one of the lexer at a piece of it, one about a
token left over at this token, and one of the grammar at a token at which it arises, if it does not
arise behind the last one and has no place. -/
def Places (P : Parser κ ν) (source : String) : Error → Prop
  | .lex e => PointsAt source e.position e.span e.text
  | .trailing found position span =>
    PointsAt source position span found ∧ ∃ ts t, P.lexer.tokenize source = .ok ts ∧ t ∈ ts ∧
      found = t.value ∧ position = t.location.start ∧ span = t.span
  | .parse e =>
    ∃ ts j, P.lexer.tokenize source = .ok ts ∧ j ≤ ts.length ∧
      P.grammar.Arises ts (P.root, .start) e j ∧
      (e.position = none ↔ e.span = none) ∧ (e.position = none ↔ j = ts.length) ∧
      ∀ t, ts[j]? = some t → e.position = some t.location.start ∧ e.span = some t.span ∧
        PointsAt source t.location.start t.span t.value
  | .pattern _ | .alternation => False

theorem places_of_failure (hroot : P.grammar.Composed P.root) {ts : List (Token κ)}
    (hts : P.lexer.tokenize source = .ok ts) {s : Step κ ν} {failure : Failure}
    (hs : P.grammar.consume P.root ts .start = some s) (hf : s.outcome = .error failure) :
    P.Places source (.parse failure.error) := by
  have hends : P.grammar.Ends ts (P.root, .start) s := ⟨_, hs⟩
  obtain ⟨j, hj⟩ := Grammar.exists_arises hroot hends hf
  have hle : j ≤ max 0 ts.length := (hj.bounds hroot).2
  rw [Nat.zero_max] at hle
  refine ⟨ts, j, hts, hle, hj, hj.isAt.span_eq_none_iff, ?_, fun t ht => ?_⟩
  · exact hj.isAt.position_eq_none_iff.trans ⟨fun h => Nat.le_antisymm hle h, fun h => h.ge⟩
  · obtain ⟨hposition, hspan⟩ := hj.isAt
    rw [ht] at hposition hspan
    exact ⟨hposition, hspan, Lexer.pointsAt_of_mem_tokens hts (List.mem_of_getElem? ht)⟩

/-- Every error of a parse of a composed rule points at the text as it should. -/
theorem places_of_parse? (hroot : P.grammar.Composed P.root) {err : Error}
    (h : P.parse? source = some (.error err)) : P.Places source err := by
  obtain ⟨e, he, herr⟩ | ⟨ts, s, hts, hs, herr⟩ := parse?_eq_some_iff.1 h
  · obtain rfl := Except.error.inj herr
    exact Lexer.pointsAt_of_lexError he
  · rw [conclude] at herr
    split at herr
    · next failure hf =>
      obtain rfl := Except.error.inj herr
      exact places_of_failure hroot hts hs hf
    · split at herr
      · contradiction
      · next t ht =>
        obtain rfl := Except.error.inj herr
        have hmem : t ∈ ts := List.mem_of_getElem? ht
        exact ⟨Lexer.pointsAt_of_mem_tokens hts hmem, ts, t, hts, hmem, rfl, rfl, rfl⟩

end Parser

namespace Grammar

variable {κ ν : Type} [DecidableEq κ] {g : Grammar κ ν} {rule : Rule κ ν}

/-- A parse with a composed root rule reports no error that does not point at the text as it should.
And a composed rule that fails has its error from a token at the cursor where it was entered or
further on, with position and span of this token, or from behind the last one. -/
theorem errors_point_at_text (hrule : g.Composed rule) :
    (∀ (l : Lexer κ) (source : String) (err : Error),
      (Parser.mk l g rule).parse? source = some (.error err) →
        (Parser.mk l g rule).Places source err) ∧
    ∀ (ts : List (Token κ)) (p : Cursor) (s : Step κ ν) (failure : Failure),
      g.consume rule ts p = some s → s.outcome = .error failure →
        ∃ j, p ≤ j ∧ g.Arises ts (rule, p) failure.error j ∧ failure.error.IsAt ts j := by
  refine ⟨fun l source err h => Parser.places_of_parse? hrule h, fun ts p s failure hs hf => ?_⟩
  obtain ⟨j, hj⟩ := exists_arises (c := (rule, p)) hrule ⟨_, hs⟩ hf
  exact ⟨j, (hj.bounds hrule).1, hj, hj.isAt⟩

/-- A token behind a character of two bytes and a line break, of which the second part of a sequence
complains by its name. Entered one token later, the sequence complains about the end. -/
theorem errors_point_at_text_second_line :
    let mark : String → Rule String Nat := fun kind => .token kind fun _ => .ok 0
    let rule : Rule String Nat := .sequence [mark "a", .named "letter b" (mark "b")] fun _ => .ok 0
    let g : Grammar String Nat := ⟨[], .furthest⟩
    let l : Lexer String := .ofDefs [⟨"a", "a", false⟩, ⟨"b", "b", false⟩, ⟨"other", "[^ab]", true⟩]
    let P : Parser String Nat := ⟨l, g, rule⟩
    let ts : List (Token String) :=
      [⟨"a", "a", ⟨⟨1, 0⟩, ⟨1, 1⟩⟩, 3⟩, ⟨"a", "a", ⟨⟨1, 2⟩, ⟨1, 3⟩⟩, 5⟩]
    let e : ParseError := ⟨.expected "letter b" (some "a"), some ⟨1, 2⟩, some ⟨5, 1⟩⟩
    let e' : ParseError := ⟨.expected "letter b" none, none, none⟩
    g.Composed rule ∧
      (P.parse? "é\na a" = some (.error (.parse e)) ∧ P.Places "é\na a" (.parse e)) ∧
      ∃ s, g.consume rule ts 1 = some s ∧ s.outcome = .error (.backtrack e') ∧
        ∃ j, 1 ≤ j ∧ g.Arises ts (rule, 1) e' j ∧ e'.IsAt ts j := by
  intro mark rule g l P ts e e'
  have hrule : g.Composed rule := composed_of_isPlain rfl rfl
  have hts : l.tokenize "é\na a" = .ok ts := by decide
  have hparse : P.parse? "é\na a" = some (.error (.parse e)) :=
    (Parser.parse?_eq hts).trans (by decide)
  have hrun : (g.consume rule ts 1).map (·.outcome) = some (.error (.backtrack e')) := by
    decide
  obtain ⟨s, hs, hf⟩ := Option.map_eq_some_iff.1 hrun
  obtain ⟨hplaces, hfails⟩ := errors_point_at_text hrule
  exact ⟨hrule, ⟨hparse, hplaces l _ _ hparse⟩, s, hs, hf, hfails ts 1 s _ hs hf⟩

end Grammar

end Descent
