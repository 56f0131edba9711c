import Mathlib.Data.List.Forall2
import Descent.Lexer

/-!
# The chain of chunks

Everything that a lexer says about a text is read off one chain of chunks, each of which is what
matches at the end of the one before. `Lexer.Chain` is that chain as a relation, without fuel;
`Lexer.chain_chunks` says that the chunks of a text are such a chain and that they end only at the
end of the text or at a place where nothing matches. The texts of a chain, put together, are the
text it has passed.
-/

namespace Descent.Lexer

variable {κ : Type} {l : Lexer κ}

/-! ## Classes -/

theorem forall₂_of_mapM {α β ε : Type} {f : α → Except ε β} {as : List α} {bs : List β}
    (h : as.mapM f = .ok bs) : List.Forall₂ (fun a b => f a = .ok b) as bs := by
  induction as generalizing bs with
  | nil =>
    rw [List.mapM_nil] at h
    obtain rfl := Except.ok.inj h
    exact .nil
  | cons a as ih =>
    rw [List.mapM_cons] at h
    cases ha : f a with
    | error e => rw [ha] at h; nomatch h
    | ok b =>
      cases has : as.mapM f with
      | error e => rw [ha, has] at h; nomatch h
      | ok rest =>
        rw [ha, has] at h
        obtain rfl := Except.ok.inj h
        exact .cons ha (ih has)

theorem exists_mem_of_forall₂ {α β : Type} {R : α → β → Prop} {as : List α} {bs : List β}
    (h : List.Forall₂ R as bs) {a : α} (ha : a ∈ as) : ∃ b ∈ bs, R a b := by
  induction h with
  | nil => nomatch ha
  | @cons a' b as bs hab _ ih =>
    rcases List.mem_cons.1 ha with rfl | ha
    · exact ⟨b, List.mem_cons_self, hab⟩
    · obtain ⟨b', hb, hab'⟩ := ih ha
      exact ⟨b', List.mem_cons_of_mem b hb, hab'⟩

/-- A lexer that is built has all patterns read, one by one and joined. -/
theorem reads_of_build [TokenKind κ] {defs : List (TokenDef κ)} (h : build defs = .ok l) :
    List.Forall₂ (fun d c => readClass d = .ok c) defs l.classes ∧
      Regex.ofText? (joinFrom 0 (defs.map (·.pattern.toList))) = some l.splitter := by
  unfold build at h
  cases hc : defs.mapM readClass with
  | error e => rw [hc] at h; nomatch h
  | ok classes =>
    rw [hc] at h
    simp only [Bind.bind, Except.bind] at h
    split at h
    · next hread =>
      obtain rfl := Except.ok.inj h
      exact ⟨forall₂_of_mapM hc, hread⟩
    · nomatch h

/-- The classes of a lexer are its definitions, read one by one and in the same order. -/
theorem classes_of_build [TokenKind κ] {defs : List (TokenDef κ)} (h : build defs = .ok l) :
    List.Forall₂ (fun d c => readClass d = .ok c) defs l.classes :=
  (reads_of_build h).1

theorem exists_def_of_mem [TokenKind κ] {defs : List (TokenDef κ)} (h : build defs = .ok l)
    {c : TokenClass κ} (hc : c ∈ l.classes) : ∃ d ∈ defs, readClass d = .ok c :=
  exists_mem_of_forall₂ (.flip (classes_of_build h)) hc

/-! ## One chunk -/

theorem mem_of_classify? {groups : List (List Char)} {c : TokenClass κ}
    (h : l.classify? groups = some c) : c ∈ l.classes := by
  obtain ⟨entry, hfind, rfl⟩ := Option.map_eq_some_iff.1 h
  have hmem := List.mem_of_find?_eq_some hfind
  exact (List.mem_zipIdx' hmem).2 ▸ List.getElem_mem _

/-- A class takes characters that are there, and at least one. -/
theorem TokenClass.matchAt?_bounds {c : TokenClass κ} {p : Place} {n : Nat}
    (h : c.matchAt? p = some n) : 0 < n ∧ n ≤ p.after.length := by
  obtain ⟨⟨skipped, m⟩, hm, h⟩ := Option.bind_eq_some_iff.1 h
  simp only at h
  split at h
  · next hn =>
    obtain ⟨rfl, hne⟩ := hn
    obtain rfl := Option.some.inj h
    exact ⟨Nat.pos_of_ne_zero hne, Regex.length_le_of_matchAt? (Regex.find?_eq_zero_iff.1 hm)⟩
  · nomatch h

/-- What matches at a place is one of the classes, and it takes characters that are there, at least
one. -/
theorem matchAt?_bounds {p : Place} {c : TokenClass κ} {n : Nat}
    (h : l.matchAt? p = some (c, n)) : c ∈ l.classes ∧ 0 < n ∧ n ≤ p.after.length := by
  obtain ⟨⟨skipped, m⟩, hm, h⟩ := Option.bind_eq_some_iff.1 h
  simp only at h
  split at h
  · nomatch h
  · next hs =>
    obtain rfl : skipped = 0 := by omega
    split at h
    · -- the alternation has taken something, and its groups tell the class
      next hne =>
      obtain ⟨c', hc, heq⟩ := Option.map_eq_some_iff.1 h
      obtain ⟨rfl, rfl⟩ := Prod.mk.inj heq
      exact ⟨mem_of_classify? hc, Nat.pos_of_ne_zero hne,
        Regex.length_le_of_matchAt? (Regex.find?_eq_zero_iff.1 hm)⟩
    · -- it matches nothing at all, so the classes are tried one by one
      obtain ⟨c', hc, h⟩ := List.exists_of_findSome?_eq_some h
      obtain ⟨k, hk, heq⟩ := Option.map_eq_some_iff.1 h
      obtain ⟨rfl, rfl⟩ := Prod.mk.inj heq
      exact ⟨hc, TokenClass.matchAt?_bounds hk⟩

/-! ## Chains -/

/-- The chunks from one place to another, each of them what matches where the one before ends. -/
inductive Chain (l : Lexer κ) : Place → List (Chunk κ) → Place → Prop
  | nil (p : Place) : Chain l p [] p
  | cons {p stop : Place} {cls : TokenClass κ} {n : Nat} {chunks : List (Chunk κ)} :
    l.matchAt? p = some (cls, n) → Chain l (p.advance n) chunks stop →
      Chain l p (⟨cls, p.after.take n⟩ :: chunks) stop

theorem chain_chunksFrom (l : Lexer κ) (fuel : Nat) (p : Place) :
    l.Chain p (l.chunksFrom fuel p).1 (l.chunksFrom fuel p).2 := by
  induction fuel generalizing p with
  | zero => exact .nil p
  | succ fuel ih =>
    unfold chunksFrom
    split
    · exact .nil p
    · cases hm : l.matchAt? p with
      | none => exact .nil p
      | some found => exact .cons hm (ih _)

/-- With as much fuel as there are characters, the chunks end where the text ends or where nothing
matches. -/
theorem stop_chunksFrom (l : Lexer κ) {fuel : Nat} {p : Place} (hfuel : p.after.length ≤ fuel) :
    (l.chunksFrom fuel p).2.after = [] ∨ l.matchAt? (l.chunksFrom fuel p).2 = none := by
  induction fuel generalizing p with
  | zero => exact Or.inl (List.length_eq_zero_iff.1 (Nat.le_zero.1 hfuel))
  | succ fuel ih =>
    unfold chunksFrom
    split
    · next hp => exact Or.inl (List.isEmpty_iff.1 hp)
    · cases hm : l.matchAt? p with
      | none => exact Or.inr hm
      | some found =>
        -- a chunk has a character at least, so the fuel stays enough
        obtain ⟨cls, n⟩ := found
        obtain ⟨-, hn, -⟩ := matchAt?_bounds hm
        refine ih ?_
        rw [Place.after_advance, List.length_drop]
        omega

/-- Nothing matches at the end of a text. -/
theorem matchAt?_eq_none_of_after_eq_nil {p : Place} (h : p.after = []) : l.matchAt? p = none := by
  cases hm : l.matchAt? p with
  | none => rfl
  | some found =>
    obtain ⟨-, hn, hle⟩ := matchAt?_bounds hm
    rw [h, List.length_nil] at hle
    omega

/-- The chunks of a text are a chain, and it ends where the text ends or where nothing matches. -/
theorem chain_chunks (l : Lexer κ) (text : List Char) :
    l.Chain (.front text) (l.chunks text).1 (l.chunks text).2 ∧
      ((l.chunks text).2.after = [] ∨ l.matchAt? (l.chunks text).2 = none) :=
  ⟨chain_chunksFrom l _ _, stop_chunksFrom l (Nat.le_refl _)⟩

namespace Chain

variable {p stop stop' : Place} {chunks chunks' : List (Chunk κ)}

/-- From a place there is one way to go on, so there is one chain that cannot be continued. -/
theorem unique (h : l.Chain p chunks stop) (hstop : l.matchAt? stop = none)
    (h' : l.Chain p chunks' stop') (hstop' : l.matchAt? stop' = none) :
    chunks = chunks' ∧ stop = stop' := by
  induction h generalizing chunks' with
  | nil p =>
    cases h' with
    | nil _ => exact ⟨rfl, rfl⟩
    | cons hm _ => exact absurd (hstop.symm.trans hm) nofun
  | cons hm _ ih =>
    cases h' with
    | nil _ => exact absurd (hstop'.symm.trans hm) nofun
    | cons hm' hrest' =>
      obtain ⟨rfl, rfl⟩ := Prod.mk.inj (Option.some.inj (hm.symm.trans hm'))
      obtain ⟨rfl, rfl⟩ := ih hstop hrest'
      exact ⟨rfl, rfl⟩

/-- Where one chain ends another one may go on. -/
theorem append (h : l.Chain p chunks stop) (h' : l.Chain stop chunks' stop') :
    l.Chain p (chunks ++ chunks') stop' := by
  induction h with
  | nil p => exact h'
  | cons hm _ ih => exact .cons hm (ih h')

/-- What a chain has not passed is left of the text. -/
theorem text_append (h : l.Chain p chunks stop) :
    chunks.flatMap (·.text) ++ stop.after = p.after := by
  induction h with
  | nil p => rfl
  | cons hm _ ih =>
    rw [List.flatMap_cons, List.append_assoc, ih, Place.after_advance, List.take_append_drop]

theorem before_eq (h : l.Chain p chunks stop) :
    stop.before = (chunks.flatMap (·.text)).reverse ++ p.before := by
  induction h with
  | nil p => rfl
  | cons hm _ ih =>
    rw [ih, Place.before_advance, List.flatMap_cons, List.reverse_append, List.append_assoc]

/-- The chunks from the front of a text are what stands before the place where they end. -/
theorem text_eq {text before after : List Char}
    (h : l.Chain (.front text) chunks ⟨before.reverse, after⟩) :
    chunks.flatMap (·.text) = before := by
  have hbefore := h.before_eq
  rw [Place.front, List.append_nil] at hbefore
  exact (List.reverse_injective hbefore).symm

theorem text_ne_nil (h : l.Chain p chunks stop) : ∀ c ∈ chunks, c.text ≠ [] := by
  induction h with
  | nil p => nofun
  | @cons p stop cls n chunks hm _ ih =>
    obtain ⟨-, hn, hle⟩ := matchAt?_bounds hm
    intro c hc
    rcases List.mem_cons.1 hc with rfl | hc
    · refine List.ne_nil_of_length_pos ?_
      rw [List.length_take]
      omega
    · exact ih c hc

theorem cls_mem (h : l.Chain p chunks stop) : ∀ c ∈ chunks, c.cls ∈ l.classes := by
  induction h with
  | nil p => nofun
  | cons hm _ ih =>
    intro c hc
    rcases List.mem_cons.1 hc with rfl | hc
    · exact (matchAt?_bounds hm).1
    · exact ih c hc

end Chain

end Descent.Lexer
