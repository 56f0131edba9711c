import Descent.Proofs.Lexer.Chain

/-!
# Tokens and the text they come from

A lexer keeps a mark while it goes over a text and moves it chunk by chunk. Here the marks are
compared with what can be read off the text itself: a position counts the line breaks before it and
the characters behind the last of them, an offset counts bytes. From this follows
`Lexer.tokenize_lossless`: the tokens of a text are its chunks without the skipped ones, and each of
them says exactly where it comes from.
-/

namespace Descent

namespace Position

/-- The position at the end of a text, read off the whole text: its line breaks, and the characters
behind the last of them. -/
def behind (text : List Char) : Position :=
  ⟨text.count '\n', (text.reverse.takeWhile (· != '\n')).length⟩

/-- Passing a text from the start on leads to the position at its end. -/
theorem advance_start (text : List Char) : start.advance text = behind text := by
  by_cases h : '\n' ∈ text
  · rw [advance_of_mem _ h, behind, lastLine, List.length_reverse, start, Nat.zero_add]
  · have hline := congrArg List.length (lastLine_of_notMem h)
    rw [lastLine, List.length_reverse] at hline
    rw [advance_of_notMem _ h, behind, hline, List.count_eq_zero_of_not_mem h, start, Nat.zero_add]

end Position

namespace Lexer

variable {κ : Type} {l : Lexer κ}

/-! ## Marks -/

theorem byteLength_append (a b : List Char) :
    byteLength (a ++ b) = byteLength a + byteLength b := by
  induction a with
  | nil => simp [byteLength]
  | cons c a ih => simp only [List.cons_append, byteLength, ih, Nat.add_assoc]

theorem byteLength_eq (text : List Char) :
    byteLength text = (String.ofList text).utf8ByteSize := by
  induction text with
  | nil => rfl
  | cons c text ih =>
    rw [byteLength, ih, String.ofList_cons, String.utf8ByteSize_append,
      String.utf8ByteSize_singleton]

namespace Mark

@[simp] theorem pass_nil (here : Mark) : here.pass [] = here := rfl

/-- A text may be passed in two parts. -/
theorem pass_pass (here : Mark) (a b : List Char) :
    (here.pass a).pass b = here.pass (a ++ b) := by
  simp only [pass, Position.advance_append, byteLength_append, Nat.add_assoc]

/-- The mark at the end of a text, read off the whole text. -/
theorem start_pass (text : List Char) :
    start.pass text = ⟨.behind text, (String.ofList text).utf8ByteSize⟩ := by
  rw [pass, start, Position.advance_start, byteLength_eq, Nat.zero_add]

end Mark

/-! ## Tokens -/

/-- The token that a chunk makes behind some text: its place is read off that text, from the start
on. -/
def Chunk.tokenBehind (chunk : Chunk κ) (before : List Char) : Token κ where
  kind := chunk.cls.kind
  value := String.ofList chunk.text
  location := ⟨.behind before, .behind (before ++ chunk.text)⟩
  offset := (String.ofList before).utf8ByteSize

/-- The tokens that some chunks make in front of a text: those not skipped, each behind all chunks
before it. -/
def tokensOf (chunks : List (Chunk κ)) : List (Token κ) :=
  (chunks.zipIdx.filter fun entry => !entry.1.cls.skip).map fun entry =>
    entry.1.tokenBehind ((chunks.take entry.2).flatMap (·.text))

/-- The marks moved chunk by chunk agree with the text before each chunk. -/
theorem located_eq (before : List Char) (chunks : List (Chunk κ)) :
    located (Mark.start.pass before) chunks = chunks.zipIdx.map fun entry =>
      (entry.1.cls, entry.1.tokenBehind (before ++ (chunks.take entry.2).flatMap (·.text))) := by
  induction chunks generalizing before with
  | nil => rfl
  | cons chunk rest ih =>
    rw [located, Mark.pass_pass, ih, List.zipIdx_cons, List.zipIdx_succ, List.map_cons,
      List.map_map]
    refine congrArg₂ List.cons ?_ (List.map_congr_left fun entry _ => ?_)
    · simp [Chunk.tokenBehind, Mark.start_pass]
    · simp [List.append_assoc]

theorem filterMap_located (chunks : List (Chunk κ)) :
    ((located .start chunks).filterMap fun entry =>
      if entry.1.skip then none else some entry.2) = tokensOf chunks := by
  have hlocated := located_eq [] chunks
  rw [Mark.pass_nil] at hlocated
  rw [hlocated, tokensOf, List.filterMap_map, ← List.filterMap_eq_map, List.filterMap_filter]
  refine List.filterMap_congr fun entry _ => ?_
  cases hs : entry.1.cls.skip <;> simp [hs]

theorem markBehind_eq (here : Mark) (chunks : List (Chunk κ)) :
    markBehind here chunks = here.pass (chunks.flatMap (·.text)) := by
  induction chunks generalizing here with
  | nil => rfl
  | cons chunk rest ih =>
    have hrest : markBehind here (chunk :: rest) = markBehind (here.pass chunk.text) rest := rfl
    rw [hrest, ih, Mark.pass_pass, List.flatMap_cons]

/-- A text is cut up to the first place at which nothing matches, and it has tokens if this is its
end. -/
theorem tokenize_cases (l : Lexer κ) (source : String) :
    ∃ (chunks : List (Chunk κ)) (before after : List Char),
      l.Chain (.front source.toList) chunks ⟨before.reverse, after⟩ ∧
      chunks.flatMap (·.text) = before ∧ before ++ after = source.toList ∧
      l.matchAt? ⟨before.reverse, after⟩ = none ∧
      l.tokenize source = if after.isEmpty then .ok (tokensOf chunks)
        else .error (l.errorAt (Mark.start.pass before) ⟨before.reverse, after⟩) := by
  obtain ⟨hchain, hstop⟩ := l.chain_chunks source.toList
  have htokenize : l.tokenize source =
      if (l.chunks source.toList).2.after.isEmpty then .ok (tokensOf (l.chunks source.toList).1)
      else .error (l.errorAt (markBehind .start (l.chunks source.toList).1)
        (l.chunks source.toList).2) := by
    rw [← filterMap_located]
    rfl
  rw [markBehind_eq] at htokenize
  generalize l.chunks source.toList = cut at hchain hstop htokenize
  obtain ⟨chunks, before, after⟩ := cut
  have hbefore : before = (chunks.flatMap (·.text)).reverse := by
    have h := hchain.before_eq
    rwa [Place.front, List.append_nil] at h
  subst hbefore
  exact ⟨chunks, _, after, hchain, rfl, hchain.text_append,
    hstop.elim matchAt?_eq_none_of_after_eq_nil id, htokenize⟩

/-- What a lexer says of a text is told by any chain of its chunks that cannot be continued. -/
theorem tokenize_of_stop {source : String} {chunks : List (Chunk κ)} {before after : List Char}
    (h : l.Chain (.front source.toList) chunks ⟨before.reverse, after⟩)
    (hstop : l.matchAt? ⟨before.reverse, after⟩ = none) :
    l.tokenize source = if after.isEmpty then .ok (tokensOf chunks)
      else .error (l.errorAt (Mark.start.pass before) ⟨before.reverse, after⟩) := by
  obtain ⟨chunks', before', after', hchain, -, -, hstop', htokenize⟩ := l.tokenize_cases source
  obtain ⟨rfl, hend⟩ := h.unique hstop hchain hstop'
  obtain ⟨hbefore, rfl⟩ := Place.mk.inj hend
  rw [List.reverse_injective hbefore]
  exact htokenize

/-- A text that a lexer can cut to the end is cut into a chain of chunks, and its tokens are those
that the chunks make. -/
theorem chain_of_tokenize {source : String} {ts : List (Token κ)}
    (h : l.tokenize source = .ok ts) :
    ∃ chunks, l.Chain (.front source.toList) chunks ⟨source.toList.reverse, []⟩ ∧
      ts = tokensOf chunks := by
  obtain ⟨chunks, before, after, hchain, -, htext, -, htokenize⟩ := l.tokenize_cases source
  rw [htokenize] at h
  split at h
  · next hafter =>
    obtain rfl := List.isEmpty_iff.1 hafter
    rw [List.append_nil] at htext
    exact ⟨chunks, htext ▸ hchain, (Except.ok.inj h).symm⟩
  · nomatch h

/-- The bytes of a beginning of a text end between two characters. -/
theorem isValid_of_append {source : String} {before after : List Char}
    (h : before ++ after = source.toList) :
    (String.Pos.Raw.mk (String.ofList before).utf8ByteSize).IsValid source := by
  refine String.Pos.Raw.isValid_iff_exists_append.2 ⟨.ofList before, .ofList after, ?_, rfl⟩
  rw [← String.ofList_append, h, String.ofList_toList]

/-- An offset of a token counts the bytes of a beginning of the text. -/
theorem isValid_of_mem_tokensOf {source : String} {chunks : List (Chunk κ)}
    (htext : chunks.flatMap (·.text) = source.toList) {t : Token κ} (h : t ∈ tokensOf chunks) :
    (String.Pos.Raw.mk t.offset).IsValid source := by
  obtain ⟨⟨chunk, i⟩, -, rfl⟩ := List.mem_map.1 h
  have hsplit : (chunks.take i).flatMap (·.text) ++ (chunks.drop i).flatMap (·.text) =
      source.toList := by
    rw [← List.flatMap_append, List.take_append_drop, htext]
  exact isValid_of_append hsplit

/-- The tokens of a text are its chunks without the skipped ones. The chunks are not empty and make
up the whole text, each belongs to the declared class that matches where the chunks before it end,
and each token has the text of its chunk, the number of bytes before it, which never falls inside a
character, and the positions read off the text up to its start and up to its end. -/
theorem tokenize_lossless [TokenKind κ] {defs : List (TokenDef κ)} (hl : build defs = .ok l)
    {source : String} {ts : List (Token κ)} (h : l.tokenize source = .ok ts) :
    ∃ chunks : List (Chunk κ),
      l.Chain (.front source.toList) chunks ⟨source.toList.reverse, []⟩ ∧
      chunks.flatMap (·.text) = source.toList ∧
      (∀ chunk ∈ chunks, chunk.text ≠ [] ∧ ∃ d ∈ defs, readClass d = .ok chunk.cls) ∧
      ts = tokensOf chunks ∧
      ∀ t ∈ ts, (String.Pos.Raw.mk t.offset).IsValid source := by
  obtain ⟨chunks, hchain, rfl⟩ := chain_of_tokenize h
  have htext := hchain.text_append
  simp only [Place.front, List.append_nil] at htext
  refine ⟨chunks, hchain, htext, fun chunk hc => ?_, rfl, fun t ht => ?_⟩
  · exact ⟨hchain.text_ne_nil chunk hc, exists_def_of_mem hl (hchain.cls_mem chunk hc)⟩
  · exact isValid_of_mem_tokensOf htext ht

/-- A character of two bytes, and a line break inside a chunk that is skipped. -/
theorem tokenize_lossless_two_lines :
    let defs : List (TokenDef String) :=
      [⟨"digits", "[0-9]+", false⟩, ⟨"mark", "[é+]", false⟩, ⟨"space", "[ \n]+", true⟩]
    let ts : List (Token String) :=
      [⟨"digits", "12", ⟨⟨0, 0⟩, ⟨0, 2⟩⟩, 0⟩, ⟨"mark", "é", ⟨⟨0, 2⟩, ⟨0, 3⟩⟩, 2⟩,
        ⟨"mark", "+", ⟨⟨1, 1⟩, ⟨1, 2⟩⟩, 6⟩]
    build defs = .ok (ofDefs defs) ∧ (ofDefs defs).tokenize "12é\n +" = .ok ts ∧
      ∃ chunks : List (Chunk String), chunks.flatMap (·.text) = "12é\n +".toList ∧
        ts = tokensOf chunks := by
  intro defs ts
  have hl : build defs = .ok (ofDefs defs) := by decide
  have h : (ofDefs defs).tokenize "12é\n +" = .ok ts := by decide
  obtain ⟨chunks, -, htext, -, hts, -⟩ := tokenize_lossless hl h
  exact ⟨hl, h, chunks, htext, hts⟩

end Lexer

end Descent
