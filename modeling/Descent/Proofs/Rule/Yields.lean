import Descent.Rule.Basic

/-!
# Successes and ordinary failures

What a grammar accepts depends on the values and cursors of its rules and on which failures are
ordinary, never on notes or on the contents of errors. `Consumer.Yields`, `Consumer.Balks` and
`Consumer.Fails` say just that much of a run, and the lemmas below tell how a combinator ends when
it is known how its parts do.

Where it is not known, `Consumer.Decides` says of a run that it ends, and without a cut, and that
what it yields is good in some sense; `Consumer.Settles` says the same and allows a cut. A sequence
decides if its first part does and the others do behind everything good that the first may yield.
-/

namespace Descent

namespace Consumer

variable {κ α β : Type} {ts : List (Token κ)} {p q r : Cursor}

/-- The consumer goes from one cursor to another and yields a value. -/
def Yields (c : Consumer κ α) (ts : List (Token κ)) (p : Cursor) (value : α) (q : Cursor) : Prop :=
  ∃ log, c ts p = some ⟨.ok value, q, log⟩

/-- The consumer fails ordinarily: a choice around it goes on. -/
def Balks (c : Consumer κ α) (ts : List (Token κ)) (p : Cursor) : Prop :=
  ∃ e q log, c ts p = some ⟨.error (.backtrack e), q, log⟩

/-- The consumer fails, ordinarily or with a cut. -/
def Fails (c : Consumer κ α) (ts : List (Token κ)) (p : Cursor) : Prop :=
  ∃ failure q log, c ts p = some ⟨.error failure, q, log⟩

/-- The consumer yields something good or fails ordinarily. -/
def Decides (c : Consumer κ α) (ts : List (Token κ)) (p : Cursor) (Good : α → Cursor → Prop) :
    Prop :=
  (∃ v q, Yields c ts p v q ∧ Good v q) ∨ Balks c ts p

/-- The consumer yields something good or fails, ordinarily or with a cut. -/
def Settles (c : Consumer κ α) (ts : List (Token κ)) (p : Cursor) (Good : α → Cursor → Prop) :
    Prop :=
  (∃ v q, Yields c ts p v q ∧ Good v q) ∨ Fails c ts p

theorem Balks.fails {c : Consumer κ α} (h : Balks c ts p) : Fails c ts p := by
  obtain ⟨e, q, log, h⟩ := h
  exact ⟨_, q, log, h⟩

theorem Decides.settles {c : Consumer κ α} {Good : α → Cursor → Prop} (h : Decides c ts p Good) :
    Settles c ts p Good :=
  h.imp_right Balks.fails

theorem Decides.imp {c : Consumer κ α} {Good Better : α → Cursor → Prop}
    (himp : ∀ v q, Good v q → Better v q) (h : Decides c ts p Good) : Decides c ts p Better :=
  h.imp_left fun ⟨v, q, hv, hgood⟩ => ⟨v, q, hv, himp v q hgood⟩

/-! ## Sequences -/

theorem yields_inOrder_nil : Yields (inOrder ([] : List (Consumer κ α))) ts p [] p := ⟨[], rfl⟩

variable {first : Consumer κ α} {rest : List (Consumer κ α)}

theorem Yields.inOrder_cons {v : α} {vs : List α} (hfirst : Yields first ts p v q)
    (hrest : Yields (inOrder rest) ts q vs r) :
    Yields (inOrder (first :: rest)) ts p (v :: vs) r := by
  obtain ⟨_, hfirst⟩ := hfirst
  obtain ⟨_, hrest⟩ := hrest
  exact ⟨_, by rw [inOrder, hfirst]; simp only [Option.bind_some, hrest]; rfl⟩

theorem Balks.inOrder_head (hfirst : Balks first ts p) : Balks (inOrder (first :: rest)) ts p := by
  obtain ⟨e, q, log, hfirst⟩ := hfirst
  exact ⟨e, q, log, by rw [inOrder, hfirst]; rfl⟩

theorem Balks.inOrder_tail {v : α} (hfirst : Yields first ts p v q)
    (hrest : Balks (inOrder rest) ts q) : Balks (inOrder (first :: rest)) ts p := by
  obtain ⟨_, hfirst⟩ := hfirst
  obtain ⟨e, r, _, hrest⟩ := hrest
  exact ⟨e, r, _, by rw [inOrder, hfirst]; simp only [Option.bind_some, hrest]; rfl⟩

variable {parts : List (Consumer κ α)} {build : List α → Except String β}

theorem Yields.sequence {vs : List α} {value : β} (hparts : Yields (inOrder parts) ts p vs q)
    (hbuild : build vs = .ok value) : Yields (Consumer.sequence parts build) ts p value q := by
  obtain ⟨log, hparts⟩ := hparts
  exact ⟨log, by rw [Consumer.sequence, hparts]; simp only [Option.map_some, hbuild]⟩

theorem Balks.sequence (hparts : Balks (inOrder parts) ts p) :
    Balks (Consumer.sequence parts build) ts p := by
  obtain ⟨e, q, log, hparts⟩ := hparts
  exact ⟨e, p, log, by rw [Consumer.sequence, hparts]; rfl⟩

theorem Decides.inOrder_nil {Good : List α → Cursor → Prop} (h : Good [] p) :
    Decides (inOrder ([] : List (Consumer κ α))) ts p Good :=
  Or.inl ⟨[], p, yields_inOrder_nil, h⟩

theorem Decides.inOrder_cons {First : α → Cursor → Prop} {Good : List α → Cursor → Prop}
    (hfirst : Decides first ts p First)
    (hrest : ∀ v q, First v q → Decides (inOrder rest) ts q fun vs r => Good (v :: vs) r) :
    Decides (inOrder (first :: rest)) ts p Good := by
  rcases hfirst with ⟨v, q, hv, hgood⟩ | hfirst
  · rcases hrest v q hgood with ⟨vs, r, hvs, hgood⟩ | hrest
    · exact Or.inl ⟨v :: vs, r, .inOrder_cons hv hvs, hgood⟩
    · exact Or.inr (.inOrder_tail hv hrest)
  · exact Or.inr (.inOrder_head hfirst)

theorem Decides.sequence {Good : β → Cursor → Prop}
    (h : Decides (inOrder parts) ts p fun vs q => ∃ v, build vs = .ok v ∧ Good v q) :
    Decides (Consumer.sequence parts build) ts p Good := by
  rcases h with ⟨vs, q, hvs, v, hbuild, hgood⟩ | h
  · exact Or.inl ⟨v, q, .sequence hvs hbuild, hgood⟩
  · exact Or.inr (.sequence h)

/-! ## Choices -/

variable {policy : ErrorPolicy} {alternatives : List (Consumer κ α)}

/-- A choice yields what one alternative yields if those before it balk. -/
theorem Yields.choice (before after : List (Consumer κ α)) {c : Consumer κ α} {v : α}
    (hbefore : ∀ a ∈ before, Balks a ts p) (hc : Yields c ts p v q) :
    Yields (Consumer.choice policy (before ++ c :: after)) ts p v q := by
  -- the alternatives before it leave their errors and notes behind, but nothing else
  suffices h : ∀ index best, ∃ log,
      choiceFrom policy ts p index best (before ++ c :: after) = some ⟨.ok v, q, log⟩ from h 0 none
  induction before with
  | nil =>
    obtain ⟨log, hc⟩ := hc
    exact fun index best => ⟨log, by rw [List.nil_append, choiceFrom, hc]; rfl⟩
  | cons a before ih =>
    intro index best
    obtain ⟨e, _, log, ha⟩ := hbefore a List.mem_cons_self
    obtain ⟨_, hrest⟩ :=
      ih (fun b hb => hbefore b (List.mem_cons_of_mem a hb)) (index + 1) (some (furtherOf best e))
    exact ⟨_, by
      rw [List.cons_append, choiceFrom, ha]
      simp only [Option.bind_some, hrest]
      rfl⟩

theorem Yields.choice_head {rest : List (Consumer κ α)} {c : Consumer κ α} {v : α}
    (h : Yields c ts p v q) : Yields (Consumer.choice policy (c :: rest)) ts p v q :=
  .choice [] rest nofun h

/-- A choice balks if all its alternatives do. -/
theorem Balks.choice (h : ∀ a ∈ alternatives, Balks a ts p) :
    Balks (Consumer.choice policy alternatives) ts p := by
  suffices h : ∀ index best, ∃ e q log,
      choiceFrom policy ts p index best alternatives = some ⟨.error (.backtrack e), q, log⟩ from
    h 0 none
  induction alternatives with
  | nil => exact fun index best => ⟨_, _, _, rfl⟩
  | cons a rest ih =>
    intro index best
    obtain ⟨e, _, log, ha⟩ := h a List.mem_cons_self
    obtain ⟨e', q, _, hrest⟩ :=
      ih (fun b hb => h b (List.mem_cons_of_mem a hb)) (index + 1) (some (furtherOf best e))
    exact ⟨e', q, _, by
      rw [choiceFrom, ha]
      simp only [Option.bind_some, hrest]
      rfl⟩

/-- A choice decides if all its alternatives do. -/
theorem Decides.choice {Good : α → Cursor → Prop} (h : ∀ a ∈ alternatives, Decides a ts p Good) :
    Decides (Consumer.choice policy alternatives) ts p Good := by
  -- either all balk, or there is a first one that does not
  have hfirst : (∀ a ∈ alternatives, Balks a ts p) ∨ ∃ before c after v q,
      alternatives = before ++ c :: after ∧ (∀ a ∈ before, Balks a ts p) ∧
        Yields c ts p v q ∧ Good v q := by
    induction alternatives with
    | nil => exact Or.inl nofun
    | cons a rest ih =>
      rcases h a List.mem_cons_self with ⟨v, q, hv, hgood⟩ | ha
      · exact Or.inr ⟨[], a, rest, v, q, rfl, nofun, hv, hgood⟩
      · rcases ih fun b hb => h b (List.mem_cons_of_mem a hb) with
          hrest | ⟨before, c, after, v, q, rfl, hbefore, hc⟩
        · exact Or.inl (List.forall_mem_cons.2 ⟨ha, hrest⟩)
        · exact Or.inr ⟨a :: before, c, after, v, q, rfl,
            List.forall_mem_cons.2 ⟨ha, hbefore⟩, hc⟩
  rcases hfirst with hall | ⟨before, c, after, v, q, rfl, hbefore, hc, hgood⟩
  · exact Or.inr (.choice hall)
  · exact Or.inl ⟨v, q, .choice before after hbefore hc, hgood⟩

/-! ## Options and wrappers -/

variable {c : Consumer κ α} {v : α}

theorem Yields.optional (h : Yields c ts p v q) : Yields (Consumer.optional c) ts p (some v) q := by
  obtain ⟨log, h⟩ := h
  exact ⟨log, by rw [Consumer.optional, h]; rfl⟩

theorem Fails.optional (h : Fails c ts p) : Yields (Consumer.optional c) ts p none p := by
  obtain ⟨failure, q, log, h⟩ := h
  cases failure <;> exact ⟨_, by rw [Consumer.optional, h]; rfl⟩

theorem Yields.map (f : α → β) (h : Yields c ts p v q) :
    Yields (Consumer.map f c) ts p (f v) q := by
  obtain ⟨log, h⟩ := h
  exact ⟨log, by rw [Consumer.map, h]; rfl⟩

theorem Balks.map (f : α → β) (h : Balks c ts p) : Balks (Consumer.map f c) ts p := by
  obtain ⟨e, q, log, h⟩ := h
  exact ⟨e, q, log, by rw [Consumer.map, h]; rfl⟩

theorem Fails.map (f : α → β) (h : Fails c ts p) : Fails (Consumer.map f c) ts p := by
  obtain ⟨failure, q, log, h⟩ := h
  exact ⟨failure, q, log, by rw [Consumer.map, h]; rfl⟩

theorem Decides.map {Good : β → Cursor → Prop} (f : α → β)
    (h : Decides c ts p fun v q => Good (f v) q) : Decides (Consumer.map f c) ts p Good := by
  rcases h with ⟨v, q, hv, hgood⟩ | h
  · exact Or.inl ⟨f v, q, hv.map f, hgood⟩
  · exact Or.inr (h.map f)

theorem Yields.named (name : String) (h : Yields c ts p v q) :
    Yields (Consumer.named name c) ts p v q := by
  obtain ⟨log, h⟩ := h
  exact ⟨_, by rw [Consumer.named, h]; rfl⟩

theorem Balks.named (name : String) (h : Balks c ts p) : Balks (Consumer.named name c) ts p := by
  obtain ⟨e, q, log, h⟩ := h
  unfold Balks Consumer.named
  rw [h]
  simp only [Option.map_some]
  split
  · exact ⟨_, _, _, rfl⟩
  · exact ⟨_, _, _, rfl⟩

theorem Decides.named {Good : α → Cursor → Prop} (name : String) (h : Decides c ts p Good) :
    Decides (Consumer.named name c) ts p Good := by
  rcases h with ⟨v, q, hv, hgood⟩ | h
  · exact Or.inl ⟨v, q, hv.named name, hgood⟩
  · exact Or.inr (h.named name)

end Consumer

/-! ## Single tokens -/

namespace Grammar

open Consumer

variable {κ ν : Type} [DecidableEq κ] {g : Grammar κ ν} {fuel : Nat} {kind : κ}
  {build : Token κ → Except String ν} {ts : List (Token κ)} {p : Cursor}

omit [DecidableEq κ] in
/-- The tokens from a cursor on, one at most. -/
theorem take_one_drop (ts : List (Token κ)) (p : Cursor) : (ts.drop p).take 1 = ts[p]?.toList := by
  rw [List.take_one, List.head?_drop]

theorem yields_token {t : Token κ} {v : ν} (ht : ts[p]? = some t) (hkind : t.kind = kind)
    (hbuild : build t = .ok v) : Yields (g.run (fuel + 1) (.token kind build)) ts p v (p + 1) := by
  have hp : p ≤ ts.length := Nat.le_of_lt (List.getElem?_eq_some_iff.1 ht).1
  refine ⟨[], ?_⟩
  rw [Rule.token, run, Consumer.tokens]
  simp only [List.length_cons, List.length_nil, Nat.zero_add, take_one_drop, ht, Option.toList_some,
    List.map_cons, List.map_nil, hkind, hp, and_self, if_true, hbuild]
  rfl

/-- A token of another kind, or one that makes no value, is no match. -/
theorem balks_token (h : ∀ t v, ts[p]? = some t → t.kind = kind → build t ≠ .ok v) :
    Balks (g.run (fuel + 1) (.token kind build)) ts p := by
  unfold Balks
  rw [Rule.token, run, Consumer.tokens]
  simp only [List.length_cons, List.length_nil, Nat.zero_add, take_one_drop]
  split
  · next hk =>
    cases ht : ts[p]? with
    | none => simp [ht] at hk
    | some t =>
      simp only [ht, Option.toList_some, List.map_cons, List.map_nil, List.cons.injEq,
        and_true] at hk ⊢
      cases hb : build t with
      | ok v => exact absurd hb (h t v ht hk.2)
      | error message => exact ⟨_, _, _, rfl⟩
  · exact ⟨_, _, _, rfl⟩

/-- A single token decides, and what it yields is the value made of a token of its kind. -/
theorem token_decides : Decides (g.run (fuel + 1) (.token kind build)) ts p fun v q =>
    q = p + 1 ∧ ∃ t, ts[p]? = some t ∧ t.kind = kind ∧ build t = .ok v := by
  by_cases h : ∃ t v, ts[p]? = some t ∧ t.kind = kind ∧ build t = .ok v
  · obtain ⟨t, v, ht, hkind, hbuild⟩ := h
    exact Or.inl ⟨v, p + 1, yields_token ht hkind hbuild, rfl, t, ht, hkind, hbuild⟩
  · exact Or.inr (balks_token fun t v ht hkind hbuild => h ⟨t, v, ht, hkind, hbuild⟩)

end Grammar

end Descent
