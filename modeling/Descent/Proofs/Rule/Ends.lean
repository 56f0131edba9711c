import Descent.Proofs.Rule.Choice

/-!
# How combinators end

`Grammar.EndsWith` speaks of the outcome of a run and of its cursor, not of the fuel or the notes.
The lemmas below say for a combinator how it ends when it is known how its parts do, and the other
way round. Parts that have ended with different amounts of fuel all end with the largest of them, so
wherever several parts are put together, what is proved is that the whole ends with all fuel from
some amount on.

The parts of a sequence that match, with their values, are `Grammar.PassesWith`.
-/

namespace Descent

namespace Grammar

open Consumer (Yields Balks Fails Decides inOrder inOrder_cons_cases sequence_cases
  optional_cases)

variable {κ ν : Type} [DecidableEq κ] {g : Grammar κ ν} {ts : List (Token κ)} {p q r : Cursor}
  {part body : Rule κ ν} {parts before : List (Rule κ ν)} {o o' : Except Failure ν} {v : ν}
  {vs : List ν} {failure : Failure} {kind : κ} {mark : Token κ → Except String ν} {n : Nat}

/-! ## Runs that end -/

theorem EndsWith.unique {c : Call κ ν} (h : g.EndsWith ts c o q) (h' : g.EndsWith ts c o' r) :
    o = o' ∧ q = r := by
  obtain ⟨s, hs, rfl, rfl⟩ := h
  obtain ⟨t, ht, rfl, rfl⟩ := h'
  obtain rfl := hs.unique ht
  exact ⟨rfl, rfl⟩

theorem EndsWith.exists_run {c : Call κ ν} (h : g.EndsWith ts c o q) :
    ∃ n, ∀ m, n ≤ m → ∃ s, g.run m c.1 ts c.2 = some s ∧ s.outcome = o ∧ s.cursor = q := by
  obtain ⟨s, ⟨n, hs⟩, ho, hq⟩ := h
  exact ⟨n, fun m hm => ⟨s, run_mono hm hs, ho, hq⟩⟩

theorem endsWith_of_yields (h : Yields (g.run n body) ts p v q) :
    g.EndsWith ts (body, p) (.ok v) q := by
  obtain ⟨log, h⟩ := h
  exact ⟨_, ⟨n, h⟩, rfl, rfl⟩

/-! ## Tokens -/

theorem endsWith_token_ok_iff : g.EndsWith ts (.token kind mark, p) (.ok v) q ↔
    ∃ t, ts[p]? = some t ∧ t.kind = kind ∧ mark t = .ok v ∧ q = p + 1 := by
  constructor
  · intro h
    have hdecides : Decides (g.run 1 (.token kind mark)) ts p _ := token_decides
    rcases hdecides with ⟨w, r, hyields, rfl, t, ht, hkind, hmark⟩ | ⟨e, r, log, hbalks⟩
    · obtain ⟨hv, rfl⟩ := h.unique (endsWith_of_yields hyields)
      obtain rfl := Except.ok.inj hv
      exact ⟨t, ht, hkind, hmark, rfl⟩
    · obtain ⟨hv, -⟩ := h.unique ⟨_, ⟨1, hbalks⟩, rfl, rfl⟩
      cases hv
  · rintro ⟨t, ht, hkind, hmark, rfl⟩
    exact endsWith_of_yields (n := 1) (yields_token ht hkind hmark)

/-- A rule for a token of a kind fails ordinarily where there is none. -/
theorem exists_balksWith_token (h : ¬KindAt ts p kind) :
    ∃ e, g.BalksWith ts p (.token kind mark) e := by
  have hbalks : Balks (g.run 1 (.token kind mark)) ts p := balks_token_of_not h
  obtain ⟨e, q, log, hbalks⟩ := hbalks
  exact ⟨e, q, _, ⟨1, hbalks⟩, rfl, rfl⟩

/-- No tokens are found everywhere, at the end of the tokens too, but not beyond it. -/
theorem endsWith_tokens_nil {build : List (Token κ) → Except String ν} (hbuild : build [] = .ok v)
    (hp : p ≤ ts.length) : g.EndsWith ts (.tokens [] build, p) (.ok v) p := by
  refine ⟨.ok v p, ⟨1, ?_⟩, rfl, rfl⟩
  rw [run, Consumer.tokens]
  simp only [List.length_nil, List.take_zero, List.map_nil, hp, and_self, if_true, hbuild]
  rfl

/-! ## Sequences -/

/-- Whether rules match one after another, with which values, and from where to where. -/
inductive PassesWith (g : Grammar κ ν) (ts : List (Token κ)) :
    List (Rule κ ν) → Cursor → List ν → Cursor → Prop
  | nil (p : Cursor) : PassesWith g ts [] p [] p
  | cons {part : Rule κ ν} {rest : List (Rule κ ν)} {p q r : Cursor} {v : ν} {vs : List ν} :
    g.EndsWith ts (part, p) (.ok v) q → PassesWith g ts rest q vs r →
      PassesWith g ts (part :: rest) p (v :: vs) r

theorem passesWith_nil_iff : g.PassesWith ts [] p vs q ↔ vs = [] ∧ q = p := by
  constructor
  · rintro ⟨⟩
    exact ⟨rfl, rfl⟩
  · rintro ⟨rfl, rfl⟩
    exact .nil q

theorem passesWith_cons_iff {rest : List (Rule κ ν)} : g.PassesWith ts (part :: rest) p vs r ↔
    ∃ v q us, vs = v :: us ∧ g.EndsWith ts (part, p) (.ok v) q ∧ g.PassesWith ts rest q us r := by
  constructor
  · rintro ⟨⟩
    next hpart hrest => exact ⟨_, _, _, rfl, hpart, hrest⟩
  · rintro ⟨v, q, us, rfl, hpart, hrest⟩
    exact .cons hpart hrest

/-- Behind parts that match the run of a sequence is that of the other parts, with the values of the
former in front. -/
theorem PassesWith.exists_inOrder (h : g.PassesWith ts before p vs q) :
    ∃ n, ∀ m, n ≤ m → ∀ after t, inOrder (after.map (g.run m)) ts q = some t →
      ∃ s, inOrder ((before ++ after).map (g.run m)) ts p = some s ∧
        s.outcome = t.outcome.map (vs ++ ·) ∧ s.cursor = t.cursor := by
  induction h with
  | nil p =>
    refine ⟨0, fun m _ after t ht => ⟨t, ht, ?_, rfl⟩⟩
    cases t.outcome <;> rfl
  | @cons part rest p q r v vs hpart _ ih =>
    obtain ⟨k, hk⟩ := hpart.exists_run
    obtain ⟨n, hn⟩ := ih
    refine ⟨max k n, fun m hm after t ht => ?_⟩
    obtain ⟨s, hs, ho, hq⟩ := hk m (le_trans (Nat.le_max_left k n) hm)
    obtain ⟨u, hu, hrest, hcursor⟩ := hn m (le_trans (Nat.le_max_right k n) hm) after t ht
    refine ⟨⟨u.outcome.map (v :: ·), u.cursor, s.log ++ u.log⟩, ?_, ?_, hcursor⟩
    · rw [List.cons_append, List.map_cons, inOrder, hs, Option.bind_some, ho]
      simp only [hq, hu, Option.map_some]
    · rw [hrest]
      cases t.outcome <;> rfl

theorem passesWith_of_inOrder {s : Step κ (List ν)}
    (hs : inOrder (parts.map (g.run n)) ts p = some s) (ho : s.outcome = .ok vs) :
    g.PassesWith ts parts p vs s.cursor := by
  induction parts generalizing p s vs with
  | nil =>
    obtain rfl := Option.some.inj hs
    obtain rfl := Except.ok.inj ho
    exact .nil p
  | cons part rest ih =>
    obtain ⟨t, ht, ⟨_, -, rfl⟩ | ⟨v, u, hv, hu, rfl⟩⟩ := inOrder_cons_cases hs
    · cases ho
    · obtain ⟨us, hus, rfl⟩ := map_eq_ok_iff.1 ho
      have hrest : g.PassesWith ts rest t.cursor us u.cursor := ih hu hus
      exact .cons ⟨t, ⟨n, ht⟩, hv, rfl⟩ hrest

variable {build : List ν → Except String ν}

/-- A sequence matches if its parts do and a value can be made of theirs. -/
theorem endsWith_sequence_ok_iff : g.EndsWith ts (.sequence parts build, p) (.ok v) q ↔
    ∃ vs, g.PassesWith ts parts p vs q ∧ build vs = .ok v := by
  constructor
  · rintro ⟨s, hs, ho, rfl⟩
    obtain ⟨n, hs⟩ := hs.exists_run_succ
    obtain ⟨t, ht, ⟨_, -, rfl⟩ | ⟨vs, hvs, ⟨w, hw, rfl⟩ | ⟨_, -, rfl⟩⟩⟩ := sequence_cases hs
    · cases ho
    · obtain rfl := Except.ok.inj ho
      exact ⟨vs, passesWith_of_inOrder ht hvs, hw⟩
    · cases ho
  · rintro ⟨vs, hparts, hbuild⟩
    obtain ⟨n, hn⟩ := hparts.exists_inOrder
    obtain ⟨s, hs, ho, hq⟩ := hn n (Nat.le_refl n) [] ⟨.ok [], q, []⟩ rfl
    rw [List.append_nil] at hs
    have hvs : s.outcome = .ok vs := ho.trans (congrArg Except.ok (List.append_nil vs))
    refine ⟨⟨.ok v, s.cursor, s.log⟩, ⟨n + 1, ?_⟩, rfl, hq⟩
    rw [run, Consumer.sequence, hs]
    simp only [Option.map_some, hvs, hbuild]

/-- A sequence fails as the first of its parts does that fails, from the cursor where it was
entered. -/
theorem endsWith_sequence_error (hbefore : g.PassesWith ts before p vs q)
    (hpart : g.EndsWith ts (part, q) (.error failure) r) (after : List (Rule κ ν))
    (build : List ν → Except String ν) :
    g.EndsWith ts (.sequence (before ++ part :: after) build, p) (.error failure) p := by
  obtain ⟨k, hk⟩ := hpart.exists_run
  obtain ⟨n, hn⟩ := hbefore.exists_inOrder
  -- with fuel for the parts before and for this one, nothing behind it is run
  obtain ⟨t, ht, ho, -⟩ := hk (max k n) (Nat.le_max_left k n)
  have hafter : inOrder ((part :: after).map (g.run (max k n))) ts q =
      some ⟨.error failure, t.cursor, t.log⟩ := by
    rw [List.map_cons, inOrder, ht, Option.bind_some, ho]
  obtain ⟨s, hs, hs', -⟩ := hn (max k n) (Nat.le_max_right k n) _ _ hafter
  simp only [Except.map] at hs'
  refine ⟨⟨.error failure, p, s.log⟩, ⟨max k n + 1, ?_⟩, rfl, rfl⟩
  rw [run, Consumer.sequence, hs]
  simp only [Option.map_some, hs']

/-! ## Cuts, options and references -/

theorem endsWith_cut_iff : g.EndsWith ts (.cut body, p) o q ↔
    ∃ o', g.EndsWith ts (body, p) o' q ∧ o = o'.mapError Failure.toCut := by
  constructor
  · rintro ⟨s, hs, rfl, rfl⟩
    obtain ⟨n, hs⟩ := hs.exists_run_succ
    obtain ⟨t, ht, rfl⟩ := Option.map_eq_some_iff.1 hs
    exact ⟨t.outcome, ⟨t, ⟨n, ht⟩, rfl, rfl⟩, rfl⟩
  · rintro ⟨_, ⟨t, ⟨n, ht⟩, rfl, rfl⟩, rfl⟩
    refine ⟨⟨t.outcome.mapError Failure.toCut, t.cursor, t.log⟩, ⟨n + 1, ?_⟩, rfl, rfl⟩
    rw [run, Consumer.cut, ht, Option.map_some]

/-- An option has a value wherever its body ends, and has moved if that has matched. -/
theorem endsWith_optional_ok_iff {wrap : Option ν → ν} :
    g.EndsWith ts (.optional body wrap, p) (.ok v) q ↔
      (∃ w, g.EndsWith ts (body, p) (.ok w) q ∧ v = wrap (some w)) ∨
        (∃ failure r, g.EndsWith ts (body, p) (.error failure) r) ∧ v = wrap none ∧ q = p := by
  constructor
  · rintro ⟨s, hs, ho, rfl⟩
    obtain ⟨n, hs⟩ := hs.exists_run_succ
    obtain ⟨u, hu, rfl⟩ := Option.map_eq_some_iff.1 hs
    obtain ⟨t, ht, ⟨w, hw, rfl⟩ | ⟨failure, _, hf, rfl⟩⟩ := optional_cases hu
    · obtain rfl := Except.ok.inj ho
      exact Or.inl ⟨w, ⟨t, ⟨n, ht⟩, hw, rfl⟩, rfl⟩
    · obtain rfl := Except.ok.inj ho
      exact Or.inr ⟨⟨failure, t.cursor, t, ⟨n, ht⟩, hf, rfl⟩, rfl, rfl⟩
  · rintro (⟨w, ⟨⟨_, r, log⟩, ⟨n, ht⟩, rfl, rfl⟩, rfl⟩ |
      ⟨⟨failure, r, ⟨⟨_, _, log⟩, ⟨n, ht⟩, rfl, rfl⟩⟩, rfl, rfl⟩)
    · have hbody : Yields (g.run n body) ts p w r := ⟨log, ht⟩
      exact endsWith_of_yields (n := n + 1) (hbody.optional.map wrap)
    · have hbody : Fails (g.run n body) ts q := ⟨failure, _, log, ht⟩
      exact endsWith_of_yields (n := n + 1) (hbody.optional.map wrap)

end Grammar

end Descent
