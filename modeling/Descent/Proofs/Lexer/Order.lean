import Descent.Proofs.Lexer.Tokens
import Descent.Proofs.Sites

/-!
# Positions go forward

A text that is not empty takes a position to a later one, so the marks that a lexer moves chunk by
chunk go forward. Every token lies between two of these marks, and a later token between later ones
(`Lexer.located_between`). Hence the tokens of a text ascend: they do not overlap, and the order of
their positions is the order in which they stand in the list. So is the order of the errors at them
(`Lexer.order_of_positions`), which is why positions can be compared where indices are meant.
-/

namespace Descent

/-- A text that is not empty leads to a later position. -/
theorem Position.key_lt_advance (h : Position) {text : List Char} (ht : text ≠ []) :
    h.key < (h.advance text).key := by
  rw [← isBefore_iff_key_lt, isBefore_iff]
  by_cases hbreak : '\n' ∈ text
  · have hcount : 0 < text.count '\n' := List.count_pos_iff.2 hbreak
    rw [advance_of_mem h hbreak]
    exact Or.inl (Nat.lt_add_of_pos_right hcount)
  · have hlength : 0 < text.length := List.length_pos_iff.2 ht
    rw [advance_of_notMem h hbreak]
    exact Or.inr ⟨rfl, Nat.lt_add_of_pos_right hlength⟩

theorem Position.isLE_compare_iff {a b : Position} :
    (a.compare b).isLE = true ↔ a.key ≤ b.key := by
  rw [key, key, Prod.Lex.toLex_le_toLex, compare, Ordering.isLE_then_iff_or, Nat.compare_eq_lt,
    Nat.compare_eq_eq, Nat.isLE_compare]

variable {κ : Type}

namespace Token

/-- The mark in front of a token. -/
def front (t : Token κ) : Lexer.Mark := ⟨t.location.start, t.offset⟩

/-- The mark behind a token. -/
def back (t : Token κ) : Lexer.Mark := ⟨t.location.stop, t.offset + t.value.utf8ByteSize⟩

end Token

namespace Lexer

variable {l : Lexer κ} {chunks : List (Chunk κ)}

/-! ## Marks -/

/-- What marks are compared by: positions and offsets, both of them. -/
def Mark.key (m : Mark) : (ℕ ×ₗ ℕ) × ℕ := (m.position.key, m.offset)

/-- Passing anything moves a mark in both respects. -/
theorem Mark.lt_pass (here : Mark) {text : List Char} (ht : text ≠ []) :
    here.position.key < (here.pass text).position.key ∧ here.offset < (here.pass text).offset := by
  refine ⟨here.position.key_lt_advance ht, ?_⟩
  obtain ⟨c, rest, rfl⟩ := List.exists_cons_of_ne_nil ht
  have hc := c.utf8Size_pos
  show here.offset < here.offset + (c.utf8Size + byteLength rest)
  omega

theorem Mark.key_le_pass (here : Mark) (text : List Char) : here.key ≤ (here.pass text).key := by
  by_cases ht : text = []
  · rw [ht, pass_nil]
  · obtain ⟨hposition, hoffset⟩ := here.lt_pass ht
    exact Prod.mk_le_mk.2 ⟨hposition.le, hoffset.le⟩

/-- A token ends where the lexer goes on. -/
theorem back_eq_pass (here : Mark) (kind : κ) (text : List Char) :
    Token.back ⟨kind, String.ofList text, ⟨here.position, (here.pass text).position⟩, here.offset⟩
      = here.pass text := by
  rw [Token.back, ← byteLength_eq]
  rfl

/-- A token lies between the marks at both ends of the chunks. -/
theorem located_between (here : Mark) {entry : TokenClass κ × Token κ}
    (h : entry ∈ located here chunks) :
    here.key ≤ entry.2.front.key ∧ entry.2.back.key ≤ (markBehind here chunks).key := by
  induction chunks generalizing here with
  | nil => nomatch h
  | cons chunk rest ih =>
    -- passing the chunk goes forward, and so does passing the rest
    have hfirst := here.key_le_pass chunk.text
    have hrest : (here.pass chunk.text).key ≤ (markBehind here (chunk :: rest)).key := by
      rw [markBehind_eq, List.flatMap_cons, ← Mark.pass_pass]
      exact Mark.key_le_pass _ _
    rw [located] at h
    rcases List.mem_cons.1 h with rfl | h
    · rw [back_eq_pass]
      exact ⟨le_refl _, hrest⟩
    · obtain ⟨hfront, hback⟩ := ih (here.pass chunk.text) h
      exact ⟨hfirst.trans hfront, hback⟩

/-- Later tokens lie behind earlier ones. -/
theorem pairwise_located (here : Mark) (chunks : List (Chunk κ)) :
    (located here chunks).Pairwise fun a b => a.2.back.key ≤ b.2.front.key := by
  induction chunks generalizing here with
  | nil => exact .nil
  | cons chunk rest ih =>
    rw [located]
    refine .cons (fun entry hentry => ?_) (ih _)
    rw [back_eq_pass]
    exact (located_between _ hentry).1

/-- Every token takes something. -/
theorem front_lt_back (hne : ∀ c ∈ chunks, c.text ≠ []) (here : Mark)
    {entry : TokenClass κ × Token κ} (h : entry ∈ located here chunks) :
    entry.2.front.position.key < entry.2.back.position.key ∧
      entry.2.front.offset < entry.2.back.offset := by
  induction chunks generalizing here with
  | nil => nomatch h
  | cons chunk rest ih =>
    obtain ⟨hchunk, hrest⟩ := List.forall_mem_cons.1 hne
    rw [located] at h
    rcases List.mem_cons.1 h with rfl | h
    · rw [back_eq_pass]
      exact here.lt_pass hchunk
    · exact ih hrest _ h

/-! ## Tokens -/

/-- The tokens of some chunks, the skipped ones left out. -/
theorem tokensOf_sublist (chunks : List (Chunk κ)) :
    (tokensOf chunks).Sublist ((located .start chunks).map (·.2)) := by
  rw [← filterMap_located]
  have hkeep : ((located .start chunks).filterMap fun entry =>
      if entry.1.skip then none else some entry.2)
      = ((located .start chunks).filter fun entry => !entry.1.skip).map (·.2) := by
    rw [← List.filterMap_eq_map, List.filterMap_filter]
    refine List.filterMap_congr fun entry _ => ?_
    cases entry.1.skip <;> rfl
  rw [hkeep]
  exact List.filter_sublist.map _

/-- The tokens of some chunks begin before the chunks end. -/
theorem offset_lt_of_mem_tokensOf (hne : ∀ c ∈ chunks, c.text ≠ []) {t : Token κ}
    (h : t ∈ tokensOf chunks) :
    t.offset < (String.ofList (chunks.flatMap (·.text))).utf8ByteSize := by
  obtain ⟨entry, hentry, rfl⟩ := List.mem_map.1 ((tokensOf_sublist chunks).subset h)
  have hback := (Prod.mk_le_mk.1 (located_between .start hentry).2).2
  rw [markBehind_eq, Mark.start_pass] at hback
  exact (front_lt_back hne .start hentry).2.trans_le hback

/-- The tokens of a text take something each and do not overlap. -/
theorem ordered_of_tokenize {source : String} {ts : List (Token κ)}
    (h : l.tokenize source = .ok ts) :
    (∀ t ∈ ts, t.location.start.key < t.location.stop.key) ∧
      ts.Pairwise fun t u => t.back.key ≤ u.front.key := by
  obtain ⟨chunks, hchain, rfl⟩ := chain_of_tokenize h
  refine ⟨fun t ht => ?_, ?_⟩
  · obtain ⟨entry, hentry, rfl⟩ := List.mem_map.1 ((tokensOf_sublist chunks).subset ht)
    exact (front_lt_back hchain.text_ne_nil .start hentry).1
  · exact (List.pairwise_map.2 (pairwise_located .start chunks)).sublist (tokensOf_sublist chunks)

/-- The tokens of a text ascend. -/
theorem ascending_of_tokenize {source : String} {ts : List (Token κ)}
    (h : l.tokenize source = .ok ts) : Ascending ts := by
  obtain ⟨hlt, hordered⟩ := ordered_of_tokenize h
  refine hordered.imp_of_mem fun ht _ hle => ?_
  exact (hlt _ ht).trans_le (Prod.mk_le_mk.1 hle).1

/-- A text may be passed in two parts, and passing anything leads to a later position. So every
token of a text ends behind its start, and later tokens start, in positions and in bytes, no earlier
than it ends. Of the errors at tokens or at the end of the text, two have the same position only if
they are at the same token, and the further one is at the later token, the end being the last. -/
theorem order_of_positions :
    (∀ (h : Position) (a b : List Char), h.advance (a ++ b) = (h.advance a).advance b) ∧
    (∀ (h : Position) (a : List Char), a ≠ [] → h.isBefore (h.advance a) = true) ∧
    ∀ (l : Lexer κ) (source : String) (ts : List (Token κ)), l.tokenize source = .ok ts →
      (∀ t ∈ ts, t.location.start.isBefore t.location.stop = true) ∧
      (∀ (i j : Nat) (t u : Token κ), i < j → ts[i]? = some t → ts[j]? = some u →
        (t.location.stop.compare u.location.start).isLE = true ∧
          t.offset + t.value.utf8ByteSize ≤ u.offset) ∧
      ∀ (i j : Nat) (e f : ParseError), i ≤ ts.length → j ≤ ts.length → e.IsAt ts i → f.IsAt ts j →
        (e.position = f.position ↔ i = j) ∧ (e.isFurtherThan f = true ↔ j < i) := by
  refine ⟨Position.advance_append, fun h a ha => ?_, fun l source ts hts => ⟨?_, ?_, ?_⟩⟩
  · exact Position.isBefore_iff_key_lt.2 (h.key_lt_advance ha)
  · intro t ht
    exact Position.isBefore_iff_key_lt.2 ((ordered_of_tokenize hts).1 t ht)
  · intro i j t u hij ht hu
    obtain ⟨hi, rfl⟩ := List.getElem?_eq_some_iff.1 ht
    obtain ⟨hj, rfl⟩ := List.getElem?_eq_some_iff.1 hu
    have hle := List.pairwise_iff_getElem.1 (ordered_of_tokenize hts).2 i j hi hj hij
    obtain ⟨hposition, hoffset⟩ := Prod.mk_le_mk.1 hle
    exact ⟨Position.isLE_compare_iff.2 hposition, hoffset⟩
  · intro i j e f hi hj he hf
    have hascending := ascending_of_tokenize hts
    constructor
    · rw [hf.1, he.position_eq_iff hascending hi hj]
      exact eq_comm
    · rw [ParseError.isFurtherThan_iff, he.site_eq, hf.site_eq, siteAt_lt_iff hascending hi]

/-- A token behind a line break stands further left than the one before it, and an error at it is
further on all the same; the end of the text is further still. -/
theorem order_of_positions_line_break :
    let l : Lexer String := ofDefs [⟨"word", "[a-zé]+", false⟩, ⟨"space", "[ \n]+", true⟩]
    let ts : List (Token String) :=
      [⟨"word", "é", ⟨⟨0, 1⟩, ⟨0, 2⟩⟩, 1⟩, ⟨"word", "ab", ⟨⟨1, 0⟩, ⟨1, 2⟩⟩, 4⟩]
    (⟨0, 1⟩ : Position).isBefore ((⟨0, 1⟩ : Position).advance "é\n".toList) = true ∧
      l.tokenize " é\nab" = .ok ts ∧
      ((⟨0, 2⟩ : Position).compare ⟨1, 0⟩).isLE = true ∧
      (ParseError.unexpected ts 1).isFurtherThan (ParseError.unexpected ts 0) = true ∧
      (ParseError.unexpected ts 2).isFurtherThan (ParseError.unexpected ts 1) = true := by
  intro l ts
  obtain ⟨-, hadvance, hlexer⟩ := order_of_positions (κ := String)
  have hts : l.tokenize " é\nab" = .ok ts := by decide
  obtain ⟨-, hordered, herrors⟩ := hlexer l _ ts hts
  have hat (i : Nat) := ParseError.isAt_unexpected ts i
  refine ⟨hadvance _ _ (by decide), hts, ?_, ?_, ?_⟩
  · exact (hordered 0 1 _ _ (by decide) rfl rfl).1
  · exact (herrors 1 0 _ _ (by decide) (by decide) (hat 1) (hat 0)).2.2 (by decide)
  · exact (herrors 2 1 _ _ (by decide) (by decide) (hat 2) (hat 1)).2.2 (by decide)

end Lexer

end Descent
