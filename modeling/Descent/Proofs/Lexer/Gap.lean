import Descent.Proofs.Lexer.Tokens

/-!
# Where a lexer gives up

A lexer cuts a text chunk by chunk up to the first place at which nothing matches. If this is not
the end of the text, it tries the places behind it one after another until something matches again,
and complains about the text between.

`Lexer.Gap` says of a stretch of text that it is such a gap, in terms of matches alone. From every
place there is one gap and no other (`gap_gapFrom`, `Gap.unique`), as there is one chain of chunks
that cannot be continued. So it can be told from the matches of a lexer which texts it refuses and
what it says of them (`Lexer.lexError_covers_gap`).
-/

namespace Descent.Lexer

variable {κ : Type} {l : Lexer κ} {before stretch stretch' after after' : List Char}

/-! ## Gaps -/

/-- Whether nothing matches in front of any character of a stretch of text, but behind the stretch
something does, unless the text ends there. -/
structure Gap (l : Lexer κ) (before stretch after : List Char) : Prop where
  unmatched : ∀ passed rest, passed ++ rest = stretch → rest ≠ [] →
    l.matchAt? ⟨(before ++ passed).reverse, rest ++ after⟩ = none
  ends : after = [] ∨ (l.matchAt? ⟨(before ++ stretch).reverse, after⟩).isSome

namespace Gap

theorem nil (h : after = [] ∨ (l.matchAt? ⟨before.reverse, after⟩).isSome) :
    l.Gap before [] after := by
  refine ⟨fun passed rest hsplit hrest => ?_, by rwa [List.append_nil]⟩
  exact absurd (List.append_eq_nil_iff.1 hsplit).2 hrest

/-- One more character in front of which nothing matches. -/
theorem cons {c : Char} (hnone : l.matchAt? ⟨before.reverse, c :: (stretch ++ after)⟩ = none)
    (h : l.Gap (before ++ [c]) stretch after) : l.Gap before (c :: stretch) after := by
  obtain ⟨hunmatched, hends⟩ := h
  rw [List.append_assoc, List.singleton_append] at hends
  refine ⟨fun passed rest hsplit hrest => ?_, hends⟩
  cases passed with
  | nil =>
    obtain rfl : rest = c :: stretch := hsplit
    rwa [List.append_nil]
  | cons d passed =>
    obtain ⟨rfl, htail⟩ := List.cons.inj hsplit
    have hlater := hunmatched passed rest htail hrest
    rwa [List.append_assoc, List.singleton_append] at hlater

theorem matchAt?_eq_none (h : l.Gap before stretch after) (hne : stretch ≠ []) :
    l.matchAt? ⟨before.reverse, stretch ++ after⟩ = none := by
  have hfirst := h.unmatched [] stretch rfl hne
  rwa [List.append_nil] at hfirst

/-- A gap does not go on behind its end, for there something matches. -/
theorem eq_nil_of_append {more : List Char} (h : l.Gap before stretch (more ++ after))
    (h' : l.Gap before (stretch ++ more) after) : more = [] := by
  by_contra hne
  have hnone := h'.unmatched stretch more rfl hne
  rcases h.ends with hnil | hsome
  · exact hne (List.append_eq_nil_iff.1 hnil).1
  · rw [hnone] at hsome
    nomatch hsome

/-- From a place in a text there is no gap but one. -/
theorem unique (h : l.Gap before stretch after) (h' : l.Gap before stretch' after')
    (htext : stretch ++ after = stretch' ++ after') : stretch = stretch' ∧ after = after' := by
  -- either of the two may be the longer one
  rcases List.append_eq_append_iff.1 htext with ⟨more, rfl, rfl⟩ | ⟨more, rfl, rfl⟩
  · obtain rfl := h.eq_nil_of_append h'
    exact ⟨(List.append_nil _).symm, rfl⟩
  · obtain rfl := h'.eq_nil_of_append h
    exact ⟨List.append_nil _, rfl⟩

end Gap

/-- The places that a lexer passes over while nothing matches make up a gap. -/
theorem gap_gapFrom (l : Lexer κ) {fuel : Nat} (before : List Char) {text : List Char}
    (hfuel : text.length ≤ fuel) :
    l.Gap before (text.take (l.gapFrom fuel ⟨before.reverse, text⟩))
      (text.drop (l.gapFrom fuel ⟨before.reverse, text⟩)) := by
  induction fuel generalizing before text with
  | zero =>
    obtain rfl := List.length_eq_zero_iff.1 (Nat.le_zero.1 hfuel)
    exact .nil (Or.inl rfl)
  | succ fuel ih =>
    cases text with
    | nil => exact .nil (Or.inl rfl)
    | cons c rest =>
      by_cases hsome : (l.matchAt? ⟨before.reverse, c :: rest⟩).isSome
      · have hzero : l.gapFrom (fuel + 1) ⟨before.reverse, c :: rest⟩ = 0 := if_pos (Or.inr hsome)
        rw [hzero]
        exact .nil (Or.inr hsome)
      · have hsucc : l.gapFrom (fuel + 1) ⟨before.reverse, c :: rest⟩
            = l.gapFrom fuel ⟨c :: before.reverse, rest⟩ + 1 := if_neg (by simpa using hsome)
        have hrest := ih (before ++ [c]) (Nat.le_of_succ_le_succ hfuel)
        rw [List.reverse_concat] at hrest
        rw [hsucc, List.take_succ_cons, List.drop_succ_cons]
        refine .cons ?_ hrest
        rwa [List.take_append_drop, ← Option.not_isSome_iff_eq_none]

/-- The error for a place at which nothing matches covers the gap that begins there. -/
theorem errorAt_eq_of_none (hnone : l.matchAt? ⟨before.reverse, after⟩ = none) (hne : after ≠ []) :
    ∃ stretch rest, stretch ++ rest = after ∧ stretch ≠ [] ∧ l.Gap before stretch rest ∧
      ∀ here, l.errorAt here ⟨before.reverse, after⟩
        = ⟨String.ofList stretch, here.position, ⟨here.offset, byteLength stretch⟩⟩ := by
  cases after with
  | nil => exact absurd rfl hne
  | cons c rest =>
    -- the search begins behind the first character
    have hgap := l.gap_gapFrom (before ++ [c]) (Nat.le_succ rest.length)
    rw [List.reverse_concat] at hgap
    refine ⟨c :: rest.take _, rest.drop _, ?_, nofun, .cons ?_ hgap, fun _ => rfl⟩
    · rw [List.cons_append, List.take_append_drop]
    · rwa [List.take_append_drop]

/-! ## Texts that a lexer refuses -/

/-- What a lexer says of a stretch of text behind some other text. -/
def complaint (before stretch : List Char) : LexError where
  text := String.ofList stretch
  position := .behind before
  span := ⟨(String.ofList before).utf8ByteSize, (String.ofList stretch).utf8ByteSize⟩

/-- A text is refused if its chunks lead to a gap that is not empty, and for this gap. -/
theorem tokenize_eq_error_iff {source : String} {e : LexError} :
    l.tokenize source = .error e ↔ ∃ chunks before stretch after,
      l.Chain (.front source.toList) chunks ⟨before.reverse, stretch ++ after⟩ ∧
      before ++ stretch ++ after = source.toList ∧ stretch ≠ [] ∧ l.Gap before stretch after ∧
      e = complaint before stretch := by
  obtain ⟨chunks, before, text, hchain, -, htext, hnone, htokenize⟩ := l.tokenize_cases source
  rw [htokenize]
  constructor
  · intro h
    split at h
    · nomatch h
    · next hempty =>
      obtain ⟨stretch, after, rfl, hne, hgap, herror⟩ :=
        errorAt_eq_of_none hnone (mt List.isEmpty_iff.2 hempty)
      obtain rfl := Except.error.inj h
      refine ⟨chunks, before, stretch, after, hchain, ?_, hne, hgap, ?_⟩
      · rw [List.append_assoc, htext]
      · rw [herror, Mark.start_pass, byteLength_eq, complaint]
  · rintro ⟨chunks', before', stretch, after, hchain', -, hne, hgap, rfl⟩
    -- the chunks lead nowhere else, and the gap is the one that the lexer passes over
    obtain ⟨-, hstop⟩ := hchain.unique hnone hchain' (hgap.matchAt?_eq_none hne)
    obtain ⟨hbefore, rfl⟩ := Place.mk.inj hstop
    obtain rfl := List.reverse_injective hbefore
    have htext_ne : stretch ++ after ≠ [] := fun h => hne (List.append_eq_nil_iff.1 h).1
    obtain ⟨stretch', after', hsplit, -, hgap', herror⟩ := errorAt_eq_of_none hnone htext_ne
    obtain ⟨rfl, rfl⟩ := hgap'.unique hgap hsplit
    rw [if_neg (mt List.isEmpty_iff.1 htext_ne), herror, Mark.start_pass, byteLength_eq, complaint]

/-- Wherever the chunks of a text lead to, they end between two characters of it. -/
theorem isValid_of_chain {source : String} {chunks : List (Chunk κ)} {stop : Place}
    (h : l.Chain (.front source.toList) chunks stop) :
    (String.Pos.Raw.mk (String.ofList stop.before.reverse).utf8ByteSize).IsValid source := by
  have hbefore : stop.before.reverse = chunks.flatMap (·.text) := by
    rw [h.before_eq, Place.front, List.append_nil, List.reverse_reverse]
  rw [hbefore]
  exact isValid_of_append h.text_append

/-- The chunks of a text lead to one place and no other at which nothing matches, and they never end
inside a character. The text is refused if this is not its end. Then the error covers a stretch of
the text that begins there and is not empty, and tells its position and its bytes. Nothing matches
in front of any character of this stretch; behind it, which is not inside a character either,
something does, a token or skipped text, unless the text ends there. -/
theorem lexError_covers_gap (l : Lexer κ) (source : String) :
    (∃! stop, (∃ chunks, l.Chain (.front source.toList) chunks stop) ∧ l.matchAt? stop = none) ∧
    (∀ chunks stop, l.Chain (.front source.toList) chunks stop →
      (String.Pos.Raw.mk (String.ofList stop.before.reverse).utf8ByteSize).IsValid source) ∧
    ((∃ e, l.tokenize source = .error e) ↔ ∃ chunks stop,
      l.Chain (.front source.toList) chunks stop ∧ stop.after ≠ [] ∧ l.matchAt? stop = none) ∧
    ∀ e, l.tokenize source = .error e ↔ ∃ chunks before stretch after,
      l.Chain (.front source.toList) chunks ⟨before.reverse, stretch ++ after⟩ ∧
      before ++ stretch ++ after = source.toList ∧ stretch ≠ [] ∧ l.Gap before stretch after ∧
      e = complaint before stretch ∧
      (String.Pos.Raw.mk (e.span.offset + e.span.length)).IsValid source := by
  refine ⟨?_, fun chunks stop => isValid_of_chain, ?_, fun e => ?_⟩
  · obtain ⟨chunks, before, after, hchain, -, -, hnone, -⟩ := l.tokenize_cases source
    refine ⟨⟨before.reverse, after⟩, ⟨⟨chunks, hchain⟩, hnone⟩, ?_⟩
    rintro stop ⟨⟨chunks', hchain'⟩, hnone'⟩
    exact (hchain'.unique hnone' hchain hnone).2
  · constructor
    · rintro ⟨e, he⟩
      obtain ⟨chunks, before, stretch, after, hchain, -, hne, hgap, -⟩ := tokenize_eq_error_iff.1 he
      exact ⟨chunks, _, hchain, fun h => hne (List.append_eq_nil_iff.1 h).1,
        hgap.matchAt?_eq_none hne⟩
    · rintro ⟨chunks, stop, hchain, hafter, hnone⟩
      obtain ⟨chunks', before, after, hchain', -, -, hnone', htokenize⟩ := l.tokenize_cases source
      obtain ⟨-, rfl⟩ := hchain.unique hnone hchain' hnone'
      exact ⟨_, by rw [htokenize, if_neg (mt List.isEmpty_iff.1 hafter)]⟩
  · rw [tokenize_eq_error_iff]
    constructor
    · rintro ⟨chunks, before, stretch, after, hchain, htext, hne, hgap, rfl⟩
      have hvalid := isValid_of_append htext
      rw [String.ofList_append, String.utf8ByteSize_append] at hvalid
      exact ⟨chunks, before, stretch, after, hchain, htext, hne, hgap, rfl, hvalid⟩
    · rintro ⟨chunks, before, stretch, after, hchain, htext, hne, hgap, he, -⟩
      exact ⟨chunks, before, stretch, after, hchain, htext, hne, hgap, he⟩

/-- A class that takes nothing where it stands, and a stretch of characters of one and two bytes and
a line break, in front of text that is skipped. -/
theorem lexError_covers_gap_line_break :
    let defs : List (TokenDef String) :=
      [⟨"lazy", "é??", false⟩, ⟨"word", "[a-z]+", false⟩, ⟨"space", " +", true⟩]
    let l := ofDefs defs
    let source := "ab é?\n c"
    build defs = .ok l ∧ l.tokenize source = .error ⟨"é?\n", ⟨0, 3⟩, ⟨3, 4⟩⟩ ∧
      ∃ chunks before stretch after,
        l.Chain (.front source.toList) chunks ⟨before.reverse, stretch ++ after⟩ ∧
        l.Gap before stretch after ∧ String.ofList stretch = "é?\n" := by
  intro defs l source
  have hl : build defs = .ok l := by decide
  have herror : l.tokenize source = .error ⟨"é?\n", ⟨0, 3⟩, ⟨3, 4⟩⟩ := by decide
  obtain ⟨-, -, -, hcovers⟩ := lexError_covers_gap l source
  obtain ⟨chunks, before, stretch, after, hchain, -, -, hgap, he, -⟩ := (hcovers _).1 herror
  exact ⟨hl, herror, chunks, before, stretch, after, hchain, hgap, (congrArg LexError.text he).symm⟩

end Descent.Lexer
