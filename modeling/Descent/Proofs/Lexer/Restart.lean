import Descent.Proofs.Lexer.Alternates
import Descent.Proofs.Lexer.Order
import Descent.Proofs.Regex.Sight

/-!
# Beginning afresh behind a chunk

What a lexer finds at a place depends on the text behind the place and on nothing else, unless one
of its patterns looks at what stands before. Then the text behind any of its chunks is cut as if it
were a whole text: the same chunks follow, or the same stretch is left unmatched, and only the
places have to be told anew (`Lexer.IgnoresBefore.tokenize_append`).

The patterns alone do not decide this, since a lexer matches through the text that joins them. If
that text is not the alternation of the patterns, it may look at what stands before although none of
the patterns does, and then a text may be refused behind a chunk that is taken by itself
(`Lexer.refused_behind_chunk`).
-/

namespace Descent

variable {κ : Type}

/-! ## Places in a text behind another one -/

/-- The position of a character when the text is put behind another one that ends at `base`. In the
first line the column goes on from there. -/
def Position.shift (base p : Position) : Position :=
  ⟨base.line + p.line, if p.line = 0 then base.col + p.col else p.col⟩

/-- The end of two texts, told by the end of each of them. -/
theorem Position.behind_append (a b : List Char) :
    behind (a ++ b) = (behind a).shift (behind b) := by
  rw [← advance_start, advance_append, advance_start, ← advance_start b]
  by_cases hb : '\n' ∈ b
  · have hline : b.count '\n' ≠ 0 := (List.count_pos_iff.2 hb).ne'
    rw [advance_of_mem _ hb, advance_of_mem _ hb, shift, start, Nat.zero_add, if_neg hline]
  · rw [advance_of_notMem _ hb, advance_of_notMem _ hb, shift, start, if_pos rfl, Nat.zero_add,
      Nat.add_zero]

/-- The token of a text when the text is put behind another one. -/
def Token.putBehind (front : List Char) (t : Token κ) : Token κ where
  kind := t.kind
  value := t.value
  location :=
    ⟨(Position.behind front).shift t.location.start, (Position.behind front).shift t.location.stop⟩
  offset := (String.ofList front).utf8ByteSize + t.offset

/-- The error of a text when the text is put behind another one. -/
def LexError.putBehind (front : List Char) (e : LexError) : LexError where
  text := e.text
  position := (Position.behind front).shift e.position
  span := ⟨(String.ofList front).utf8ByteSize + e.span.offset, e.span.length⟩

namespace Lexer

variable {l : Lexer κ}

theorem Chunk.tokenBehind_append (chunk : Chunk κ) (front before : List Char) :
    chunk.tokenBehind (front ++ before) = (chunk.tokenBehind before).putBehind front := by
  simp only [tokenBehind, Token.putBehind, List.append_assoc, Position.behind_append,
    String.ofList_append, String.utf8ByteSize_append]

theorem located_append (here : Mark) (chunks more : List (Chunk κ)) :
    located here (chunks ++ more)
      = located here chunks ++ located (markBehind here chunks) more := by
  induction chunks generalizing here with
  | nil => rfl
  | cons chunk rest ih =>
    rw [List.cons_append, located, located, ih]
    rfl

theorem located_behind (front : List Char) (chunks : List (Chunk κ)) :
    located (Mark.start.pass front) chunks
      = (located .start chunks).map fun entry => (entry.1, entry.2.putBehind front) := by
  have hstart := located_eq [] chunks
  rw [Mark.pass_nil] at hstart
  rw [located_eq, hstart, List.map_map]
  refine List.map_congr_left fun entry _ => ?_
  rw [Chunk.tokenBehind_append]
  rfl

/-- More chunks make the tokens that they make alone, put behind the chunks before them. -/
theorem tokensOf_append (chunks more : List (Chunk κ)) :
    tokensOf (chunks ++ more)
      = tokensOf chunks ++ (tokensOf more).map (Token.putBehind (chunks.flatMap (·.text))) := by
  rw [← filterMap_located, ← filterMap_located, ← filterMap_located, located_append, markBehind_eq,
    located_behind, List.filterMap_append, List.filterMap_map, List.map_filterMap]
  refine congrArg _ (List.filterMap_congr fun entry _ => ?_)
  show (if entry.1.skip then none else some _) = _
  split
  · rfl
  · rfl

/-! ## What a lexer finds -/

/-- Whether a lexer finds at every place what it finds in front of the text behind it. -/
def IgnoresBefore (l : Lexer κ) : Prop := ∀ p, l.matchAt? p = l.matchAt? (.front p.after)

theorem firstAt?_congr {classes : List (TokenClass κ)} {p q : Place}
    (h : ∀ c ∈ classes, c.pattern.matchAt? p = c.pattern.matchAt? q) :
    firstAt? classes p = firstAt? classes q := by
  induction classes with
  | nil => rfl
  | cons c rest ih =>
    obtain ⟨hc, hrest⟩ := List.forall_mem_cons.1 h
    have hfirst := ih hrest
    unfold firstAt? at hfirst ⊢
    rw [List.findSome?_cons, List.findSome?_cons, hc, hfirst]

/-- No pattern has to look at what stands before a place, and neither has the one that joins them,
unless it is their alternation. -/
theorem ignoresBefore_of_patterns (hjoined : l.Alternates ∨ l.splitter.IgnoresBefore)
    (hpatterns : ∀ c ∈ l.classes, c.pattern.IgnoresBefore) : l.IgnoresBefore := by
  intro p
  have hfirst : firstAt? l.classes p = firstAt? l.classes (.front p.after) :=
    firstAt?_congr fun c hc => hpatterns c hc p
  rcases hjoined with halternates | hsplitter
  · rw [halternates.matchAt?_eq, halternates.matchAt?_eq, hfirst]
  · rw [matchAt?_eq_bind, matchAt?_eq_bind, hsplitter p, hfirst]

namespace IgnoresBefore

variable (h : l.IgnoresBefore)

include h

theorem matchAt?_congr {p q : Place} (hafter : p.after = q.after) :
    l.matchAt? p = l.matchAt? q := by
  rw [h p, h q, hafter]

/-- The chunks that follow a place are also found at another place in front of the same text. -/
theorem exists_chain {p q stop : Place} {chunks : List (Chunk κ)} (hafter : p.after = q.after)
    (hchain : l.Chain p chunks stop) :
    ∃ stop', l.Chain q chunks stop' ∧ stop'.after = stop.after := by
  induction hchain generalizing q with
  | nil p => exact ⟨q, .nil q, hafter.symm⟩
  | @cons p stop cls n chunks hm _ ih =>
    have hnext : (p.advance n).after = (q.advance n).after := by
      rw [Place.after_advance, Place.after_advance, hafter]
    obtain ⟨stop', hrest, hstop⟩ := ih hnext
    rw [h.matchAt?_congr hafter] at hm
    rw [hafter]
    exact ⟨stop', .cons hm hrest, hstop⟩

theorem gapFrom_congr (fuel : Nat) {p q : Place} (hafter : p.after = q.after) :
    l.gapFrom fuel p = l.gapFrom fuel q := by
  induction fuel generalizing p q with
  | zero => rfl
  | succ fuel ih =>
    have hnext : p.next.after = q.next.after := by
      rw [Place.after_next, Place.after_next, hafter]
    rw [gapFrom, gapFrom, hafter, h.matchAt?_congr hafter, ih hnext]

theorem errorAt_behind (front before after : List Char) :
    l.errorAt (Mark.start.pass (front ++ before)) ⟨(front ++ before).reverse, after⟩
      = (l.errorAt (Mark.start.pass before) ⟨before.reverse, after⟩).putBehind front := by
  have hnext : (Place.next ⟨(front ++ before).reverse, after⟩).after
      = (Place.next ⟨before.reverse, after⟩).after := by
    rw [Place.after_next, Place.after_next]
  have hgap := h.gapFrom_congr after.length hnext
  simp only [errorAt, LexError.putBehind, hgap, Mark.start_pass, Position.behind_append,
    String.ofList_append, String.utf8ByteSize_append]

/-- Behind a chunk a text is read as the rest of it alone is. -/
theorem tokenize_append {a b : String} {chunks : List (Chunk κ)}
    (hchain : l.Chain (.front (a ++ b).toList) chunks ⟨a.toList.reverse, b.toList⟩) :
    l.tokenize (a ++ b) =
      match l.tokenize b with
      | .ok tokens => .ok (tokensOf chunks ++ tokens.map (Token.putBehind a.toList))
      | .error e => .error (e.putBehind a.toList) := by
  obtain ⟨more, mid, rest, hmore, hmid, -, hnone, htokenize⟩ := l.tokenize_cases b
  -- the chunks of the rest, found behind those that come first
  have hafter : (Place.front b.toList).after = (Place.mk a.toList.reverse b.toList).after := rfl
  obtain ⟨⟨before, after⟩, hbehind, rfl⟩ := h.exists_chain hafter hmore
  have hbefore := hbehind.before_eq
  rw [hmid, ← List.reverse_append] at hbefore
  obtain rfl : before = (a.toList ++ mid).reverse := hbefore
  have hstop : l.matchAt? ⟨(a.toList ++ mid).reverse, after⟩ = none := by
    rw [← hnone]
    exact h.matchAt?_congr rfl
  rw [tokenize_of_stop (hchain.append hbehind) hstop, htokenize]
  split
  · rw [tokensOf_append, hchain.text_eq]
  · rw [h.errorAt_behind]

end IgnoresBefore

/-! ## Beginning afresh -/

/-- The tokens of the chunks in front begin before the rest, those of the rest do not. -/
theorem filter_tokens_behind {a b : String} {chunks : List (Chunk κ)}
    (hchain : l.Chain (.front (a ++ b).toList) chunks ⟨a.toList.reverse, b.toList⟩)
    (us : List (Token κ)) :
    (tokensOf chunks ++ us.map (Token.putBehind a.toList)).filter (a.utf8ByteSize ≤ ·.offset)
      = us.map (Token.putBehind a.toList) := by
  have hfront : ∀ t ∈ tokensOf chunks, t.offset < a.utf8ByteSize := by
    intro t ht
    have hlt := offset_lt_of_mem_tokensOf hchain.text_ne_nil ht
    rwa [hchain.text_eq, String.ofList_toList] at hlt
  have hbehind : ∀ t ∈ us.map (Token.putBehind a.toList), a.utf8ByteSize ≤ t.offset := by
    intro t ht
    obtain ⟨u, -, rfl⟩ := List.mem_map.1 ht
    show a.utf8ByteSize ≤ (String.ofList a.toList).utf8ByteSize + u.offset
    rw [String.ofList_toList]
    omega
  rw [List.filter_append, List.filter_eq_nil_iff.2, List.filter_eq_self.2, List.nil_append]
  · intro t ht
    exact decide_eq_true (hbehind t ht)
  · intro t ht
    have hlt := hfront t ht
    rw [decide_eq_true_eq]
    omega

/-- A lexer may begin afresh behind any chunk, if its patterns match at every place as they do in
front of the text behind it, and if the pattern that joins them is their alternation or matches so
too. The text is refused if its rest is. The tokens that do not begin before the rest are those of
the rest, and the error is that of the rest, in every case with the positions and the bytes that
they have behind the text before. -/
theorem restart_behind_chunk {l : Lexer κ} (hjoined : l.Alternates ∨ l.splitter.IgnoresBefore)
    (hpatterns : ∀ c ∈ l.classes, c.pattern.IgnoresBefore) {a b : String} {chunks : List (Chunk κ)}
    (hchain : l.Chain (.front (a ++ b).toList) chunks ⟨a.toList.reverse, b.toList⟩) :
    ((∃ e, l.tokenize (a ++ b) = .error e) ↔ ∃ e, l.tokenize b = .error e) ∧
    (∀ ts us, l.tokenize (a ++ b) = .ok ts → l.tokenize b = .ok us →
      ts.filter (a.utf8ByteSize ≤ ·.offset) = us.map (Token.putBehind a.toList)) ∧
    ∀ e f, l.tokenize (a ++ b) = .error e → l.tokenize b = .error f → e = f.putBehind a.toList := by
  have happend := (ignoresBefore_of_patterns hjoined hpatterns).tokenize_append hchain
  cases hb : l.tokenize b with
  | error f =>
    rw [hb] at happend
    refine ⟨?_, ?_, ?_⟩
    · exact ⟨fun _ => ⟨f, rfl⟩, fun _ => ⟨_, happend⟩⟩
    · intro ts us hts
      cases happend.symm.trans hts
    · intro e f' he hf
      obtain rfl := Except.error.inj hf
      exact Except.error.inj (he.symm.trans happend)
  | ok us =>
    rw [hb] at happend
    refine ⟨?_, ?_, ?_⟩
    · constructor
      · rintro ⟨e, he⟩
        cases happend.symm.trans he
      · rintro ⟨f, hf⟩
        cases hf
    · intro ts us' hts hus
      obtain rfl := Except.ok.inj hus
      obtain rfl := Except.ok.inj (hts.symm.trans happend)
      exact filter_tokens_behind hchain us
    · intro e f he
      cases happend.symm.trans he

/-- Behind a line break and a character of two bytes, a text with tokens in two lines and one that
is refused. -/
theorem restart_behind_chunk_second_line :
    let defs : List (TokenDef String) :=
      [⟨"word", "[a-zé]+$|[a-zé]", false⟩, ⟨"space", "[ \n]+", true⟩]
    let l := ofDefs defs
    build defs = .ok l ∧ l.Alternates ∧ (∀ c ∈ l.classes, c.pattern.IgnoresBefore) ∧
      l.tokenize ("é\n x" ++ " ?? y") = .error ⟨"??", ⟨1, 3⟩, ⟨6, 2⟩⟩ ∧
      ∀ ts, l.tokenize ("é\n x" ++ " y\nz") = .ok ts → ts.filter (5 ≤ ·.offset) =
        [⟨"word", "y", ⟨⟨1, 3⟩, ⟨1, 4⟩⟩, 6⟩, ⟨"word", "z", ⟨⟨2, 0⟩, ⟨2, 1⟩⟩, 8⟩] := by
  intro defs l
  have hl : build defs = .ok l := by decide
  have halternates := alternates_of_splitter hl (by decide)
  have hpatterns : ∀ c ∈ l.classes, c.pattern.IgnoresBefore := by
    intro c hc
    have hlooks : ∀ c ∈ l.classes, c.pattern.looksBehind = false := by decide
    exact Regex.ignoresBefore_of_looksBehind (hlooks c hc)
  have hchain (b : String) (hstop : (l.chunksFrom 3 (.front ("é\n x" ++ b).toList)).2
      = ⟨"é\n x".toList.reverse, b.toList⟩) :
      ∃ chunks, l.Chain (.front ("é\n x" ++ b).toList) chunks ⟨"é\n x".toList.reverse, b.toList⟩ :=
    ⟨_, hstop ▸ l.chain_chunksFrom 3 (.front ("é\n x" ++ b).toList)⟩
  obtain ⟨_, hrefused⟩ := hchain " ?? y" (by decide)
  obtain ⟨_, hread⟩ := hchain " y\nz" (by decide)
  have hrest : l.tokenize " y\nz"
      = .ok [⟨"word", "y", ⟨⟨0, 1⟩, ⟨0, 2⟩⟩, 1⟩, ⟨"word", "z", ⟨⟨1, 0⟩, ⟨1, 1⟩⟩, 3⟩] := by decide
  have herror : l.tokenize " ?? y" = .error ⟨"??", ⟨0, 1⟩, ⟨1, 2⟩⟩ := by decide
  refine ⟨hl, halternates, hpatterns, ?_, fun ts hts => ?_⟩
  · obtain ⟨hiff, -, herrors⟩ := restart_behind_chunk (Or.inl halternates) hpatterns hrefused
    obtain ⟨e, he⟩ := hiff.2 ⟨_, herror⟩
    rw [he, herrors e _ he herror]
    decide
  · exact (restart_behind_chunk (Or.inl halternates) hpatterns hread).2.1 ts _ hts hrest

/-- Neither of two patterns looks at what stands before a place, but a comment at the end of the
first one makes an anchor of a character in the second one's class. So a text of one character is a
token, and the same text behind this token is refused. -/
theorem refused_behind_chunk :
    let defs : List (TokenDef String) :=
      [⟨"word", "(?x)a#", false⟩, ⟨"sign", "[#\n?^a|]", false⟩]
    let l := ofDefs defs
    build defs = .ok l ∧ (∀ c ∈ l.classes, c.pattern.IgnoresBefore) ∧
      (∃ chunks, l.Chain (.front ("a" ++ "a").toList) chunks ⟨"a".toList.reverse, "a".toList⟩) ∧
      l.tokenize "a" = .ok [⟨"word", "a", ⟨⟨0, 0⟩, ⟨0, 1⟩⟩, 0⟩] ∧
      l.tokenize ("a" ++ "a") = .error ⟨"a", ⟨0, 1⟩, ⟨1, 1⟩⟩ := by
  intro defs l
  have hpatterns : ∀ c ∈ l.classes, c.pattern.looksBehind = false := by decide
  have hstop : (l.chunksFrom 1 (.front ("a" ++ "a").toList)).2
      = ⟨"a".toList.reverse, "a".toList⟩ := by decide
  have hchain := l.chain_chunksFrom 1 (.front ("a" ++ "a").toList)
  rw [hstop] at hchain
  refine ⟨by decide, fun c hc => ?_, ⟨_, hchain⟩, by decide, by decide⟩
  exact Regex.ignoresBefore_of_looksBehind (hpatterns c hc)

end Lexer

end Descent
