import Descent.Proofs.Lexer.Alternates

/-!
# A lexer without an alternation

The plain way to cut a text is to try the classes one after another where the last token ended, and
to give up at the first place where none of them takes anything. `Lexer.readFrom` does just that: it
knows no splitter and no groups, and it writes down tokens as it goes. A lexer whose splitter
alternates its classes reads every text in the same way, tokens and errors alike
(`Lexer.agrees_of_build`).
-/

namespace Descent.Lexer

variable {κ : Type} {l : Lexer κ} {classes : List (TokenClass κ)}

/-! ## Reading class by class -/

/-- The class that is found first has taken what its pattern prefers to take, and not nothing. -/
theorem exists_matchAt?_of_firstAt? {p : Place} {c : TokenClass κ} {n : Nat}
    (h : firstAt? classes p = some (c, n)) :
    c ∈ classes ∧ ∃ m, c.pattern.matchAt? p = some m ∧ m.length = n ∧ n ≠ 0 := by
  obtain ⟨c', hmem, hc⟩ := List.exists_of_findSome?_eq_some h
  obtain ⟨m, hm, hif⟩ := Option.bind_eq_some_iff.1 hc
  split at hif
  · nomatch hif
  · next hne =>
    obtain ⟨rfl, rfl⟩ := Prod.mk.inj (Option.some.inj hif)
    exact ⟨hmem, m, hm, rfl, hne⟩

/-- A class takes at least one character, and only characters that are there. -/
theorem firstAt?_bounds {p : Place} {c : TokenClass κ} {n : Nat}
    (h : firstAt? classes p = some (c, n)) : 0 < n ∧ n ≤ p.after.length := by
  obtain ⟨-, m, hm, rfl, hne⟩ := exists_matchAt?_of_firstAt? h
  exact ⟨Nat.pos_of_ne_zero hne, Regex.length_le_of_matchAt? hm⟩

/-- The text after a place, up to where some class takes something or to the end. -/
def unmatched (classes : List (TokenClass κ)) (before : List Char) : List Char → List Char
  | [] => []
  | c :: rest =>
    if (firstAt? classes ⟨before, c :: rest⟩).isSome then []
    else c :: unmatched classes (c :: before) rest

/-- The tokens from a place on. -/
def readFrom (classes : List (TokenClass κ)) (here : Mark) (p : Place) :
    Except LexError (List (Token κ)) :=
  if p.after.isEmpty then .ok []
  else
    match _ : firstAt? classes p with
    | none =>
      let text := unmatched classes p.before p.after
      .error ⟨String.ofList text, here.position, ⟨here.offset, byteLength text⟩⟩
    | some (c, n) =>
      let text := p.after.take n
      let stop := here.pass text
      let location := ⟨here.position, stop.position⟩
      (readFrom classes stop (p.advance n)).map fun tokens =>
        if c.skip then tokens
        else ⟨c.kind, String.ofList text, location, here.offset⟩ :: tokens
termination_by p.after.length
decreasing_by
  have hfirst : firstAt? classes p = some (c, n) := by assumption
  obtain ⟨hn, hle⟩ := firstAt?_bounds hfirst
  rw [Place.after_advance, List.length_drop]
  omega

/-- The tokens of a text, found by trying the classes in order at every place. -/
def readText (classes : List (TokenClass κ)) (source : String) : Except LexError (List (Token κ)) :=
  readFrom classes .start (.front source.toList)

/-! ## Errors -/

/-- Both ways leave the same text unmatched. -/
theorem Alternates.take_gapFrom (h : l.Alternates) {fuel : Nat} {p : Place}
    (hfuel : p.after.length ≤ fuel) :
    p.after.take (l.gapFrom fuel p) = unmatched l.classes p.before p.after := by
  induction fuel generalizing p with
  | zero =>
    have hafter : p.after = [] := List.length_eq_zero_iff.1 (Nat.le_zero.1 hfuel)
    rw [hafter]
    rfl
  | succ fuel ih =>
    obtain ⟨before, after⟩ := p
    cases after with
    | nil => rfl
    | cons c rest =>
      have hrest := ih (p := ⟨c :: before, rest⟩) (Nat.le_of_succ_le_succ hfuel)
      rw [gapFrom, unmatched, h.matchAt?_eq]
      by_cases hsome : (firstAt? l.classes ⟨before, c :: rest⟩).isSome
      · rw [if_pos (Or.inr hsome), if_pos hsome]
        rfl
      · have hnone : ¬((c :: rest).isEmpty = true ∨
            (firstAt? l.classes ⟨before, c :: rest⟩).isSome = true) := by simpa using hsome
        rw [if_neg hnone, if_neg hsome, List.take_succ_cons]
        exact congrArg (c :: ·) hrest

theorem Alternates.errorAt_eq (h : l.Alternates) (here : Mark) {p : Place} (hp : p.after ≠ [])
    (hnone : firstAt? l.classes p = none) :
    l.errorAt here p =
      let text := unmatched l.classes p.before p.after
      ⟨String.ofList text, here.position, ⟨here.offset, byteLength text⟩⟩ := by
  obtain ⟨before, after⟩ := p
  cases after with
  | nil => exact absurd rfl hp
  | cons c rest =>
    have hgap := h.take_gapFrom (p := ⟨c :: before, rest⟩) (Nat.le_succ rest.length)
    have htext : (c :: rest).take (l.gapFrom (rest.length + 1) ⟨c :: before, rest⟩ + 1)
        = unmatched l.classes before (c :: rest) := by
      rw [List.take_succ_cons, unmatched, hnone]
      exact congrArg (c :: ·) hgap
    rw [← htext]
    rfl

/-! ## Whole texts -/

/-- From every mark on, the tokens written down are those that the chunks make. -/
theorem Alternates.readFrom_eq (h : l.Alternates) {fuel : Nat} (here : Mark) {p : Place}
    (hfuel : p.after.length ≤ fuel) :
    readFrom l.classes here p =
      let (chunks, stop) := l.chunksFrom fuel p
      if stop.after.isEmpty then
        .ok ((located here chunks).filterMap fun entry =>
          if entry.1.skip then none else some entry.2)
      else .error (l.errorAt (markBehind here chunks) stop) := by
  induction fuel generalizing here p with
  | zero =>
    have hafter : p.after = [] := List.length_eq_zero_iff.1 (Nat.le_zero.1 hfuel)
    rw [readFrom, chunksFrom]
    simp [hafter, located]
  | succ fuel ih =>
    rw [readFrom, chunksFrom, h.matchAt?_eq]
    by_cases hp : p.after.isEmpty
    · simp [hp, located]
    · rw [if_neg hp, if_neg hp]
      cases hfirst : firstAt? l.classes p with
      | none =>
        have hne : p.after ≠ [] := by simpa using hp
        simp [hp, h.errorAt_eq here hne hfirst, markBehind]
      | some found =>
        obtain ⟨c, n⟩ := found
        obtain ⟨hn, hle⟩ := firstAt?_bounds hfirst
        have hrest : (p.advance n).after.length ≤ fuel := by
          rw [Place.after_advance, List.length_drop]
          omega
        -- the token at hand goes in front of those of the later chunks, and an error stays
        simp only
        rw [ih (here.pass (p.after.take n)) hrest]
        generalize l.chunksFrom fuel (p.advance n) = cut
        obtain ⟨chunks, stop⟩ := cut
        by_cases hstop : stop.after.isEmpty
        · by_cases hskip : c.skip <;> simp [hstop, hskip, located, Except.map]
        · simp [hstop, markBehind, Except.map]

theorem Alternates.tokenize_eq (h : l.Alternates) (source : String) :
    l.tokenize source = readText l.classes source :=
  (h.readFrom_eq .start (Nat.le_refl source.toList.length)).symm

/-- A lexer whose splitter is the alternation of its classes, each in its group, finds at every
place of every text the first class in order whose preferred match there takes something, with the
end of that match, and it cuts every text into the same tokens, or with the same error, as trying
the classes one after another does. -/
theorem agrees_of_build [TokenKind κ] {defs : List (TokenDef κ)} (h : build defs = .ok l)
    (hsplitter : l.splitter = alternation l.classes) :
    (∀ p, l.matchAt? p = firstAt? l.classes p) ∧
      ∀ source, l.tokenize source = readText l.classes source := by
  have halternates : l.Alternates := alternates_of_splitter h hsplitter
  exact ⟨halternates.matchAt?_eq, halternates.tokenize_eq⟩

/-- Two classes that prefer to take nothing, one in front of the others and one with a group of its
own, and a text that ends in characters for which there is no class. -/
theorem agrees_of_build_lazy :
    let defs : List (TokenDef String) :=
      [⟨"lazy", "a??", false⟩, ⟨"pair", "(?P<x>a)b|c", false⟩, ⟨"word", "[a-c]+", false⟩,
        ⟨"space", " *", true⟩]
    let l := ofDefs defs
    build defs = .ok l ∧ l.splitter = alternation l.classes ∧
      l.matchAt? (.front "abc".toList) = firstAt? l.classes (.front "abc".toList) ∧
      (l.matchAt? (.front "abc".toList)).map (fun found => (found.1.kind, found.2))
        = some ("pair", 2) ∧
      l.tokenize "ab ba??c" = readText l.classes "ab ba??c" ∧
      l.tokenize "ab ba??c" = .error ⟨"??", ⟨0, 5⟩, ⟨5, 2⟩⟩ := by
  intro defs l
  have hl : build defs = .ok l := by decide
  have hsplitter : l.splitter = alternation l.classes := by decide
  obtain ⟨hmatch, htokens⟩ := agrees_of_build hl hsplitter
  exact ⟨hl, hsplitter, hmatch _, by decide, htokens _, by decide⟩

end Descent.Lexer
