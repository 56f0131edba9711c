import Descent.Proofs.Sites
import Descent.Proofs.Rule.Calls

/-!
# Where failures come from

A rule that fails has either found the fault itself or been told of it by a rule that it called. A
fault of its own it blames on the token at which it was entered, or, where a sequence refuses the
values of its parts, on the token behind them (`Grammar.Blames`); a failure that it was told of it
hands on with the same error, as it is, as a cut or as an ordinary failure. `Grammar.FailsBy` lists
these ways, and `Grammar.failsBy_of_run` says that there are no others.

So the error of a whole run arises somewhere in it (`Grammar.exists_arises`): some rule called in
the run fails with that very error and has found it at a token that is really there, or behind the
last one. Calls do not go back, so no rule complains about a token before the one it was entered at
(`Arises.bounds`); in an ascending token list this means that no failure lies before the cursor
(`failsBehind_run`).
-/

namespace Descent

namespace Grammar

open Consumer (Balks inOrder choiceFrom itemsFrom any_kind_iff furtherOf_cases exhausted
  tokens_cases inOrder_cons_cases sequence_cases choiceFrom_cons_cases itemsFrom_cases
  lookahead_cases cut_cases map_cases named_cases list_cases optional_cases)

variable {κ ν : Type} [DecidableEq κ] {g : Grammar κ ν} {ts : List (Token κ)} {rule item : Rule κ ν}
  {parts : List (Rule κ ν)} {delimiter : κ} {p q : Cursor} {n : Nat} {c : Call κ ν}
  {failure : Failure} {e : ParseError}

/-! ## One rule -/

/-- Whether a rule may find an error of its own at a cursor: the one it is run from, or one behind
the parts of a sequence. -/
inductive Blames (g : Grammar κ ν) (ts : List (Token κ)) :
    Call κ ν → ParseError → Cursor → Prop
  | entry {rule : Rule κ ν} {p : Cursor} {e : ParseError} : e.IsAt ts p → Blames g ts (rule, p) e p
  | behind {parts : List (Rule κ ν)} {p q : Cursor} {e : ParseError}
    (build : List ν → Except String ν) : g.Passes ts parts p q → e.IsAt ts q →
      Blames g ts (.sequence parts build, p) e q

/-- The ways in which a rule comes to fail: with an error of its own, or with the error of a rule
that it has called and that has some fuel. -/
inductive FailsBy (g : Grammar κ ν) (ts : List (Token κ)) (n : Nat) : Call κ ν → Failure → Prop
  | own {c : Call κ ν} {e : ParseError} {q : Cursor} :
    g.Blames ts c e q → FailsBy g ts n c (.backtrack e)
  /-- A reference leads nowhere. -/
  | undefined {id : Nat} {p : Cursor} {e : ParseError} :
    g.definition? id = none → e.IsAt ts p → FailsBy g ts n (.ref id, p) (.cut e)
  /-- The failure is handed on as it is. -/
  | passed {c d : Call κ ν} {t : Step κ ν} {failure : Failure} : c.1.shields = false →
    g.Calls ts c d → g.run n d.1 ts d.2 = some t → t.outcome = .error failure →
      FailsBy g ts n c failure
  | demoted {body : Rule κ ν} {p : Cursor} {t : Step κ ν} {failure : Failure} :
    g.run n body ts p = some t → t.outcome = .error failure →
      FailsBy g ts n (.lookahead body, p) failure.toBacktrack
  /-- The operand of a cut has failed. -/
  | operand {body : Rule κ ν} {p : Cursor} {t : Step κ ν} {failure : Failure} :
    g.run n body ts p = some t → t.outcome = .error failure →
      FailsBy g ts n (.cut body, p) failure.toCut
  /-- An item has failed behind a delimiter. -/
  | item {item : Rule κ ν} {delimiter : κ} {m : Nat} {p q : Cursor} {t : Step κ ν}
    {failure : Failure} (wrap : List ν → ν) : g.Rounds ts item delimiter (m + 1) p q →
      g.run n item ts q = some t → t.outcome = .error failure →
        FailsBy g ts n (.list item delimiter wrap, p) failure.toCut

theorem passes_of_inOrder {s : Step κ (List ν)} {values : List ν}
    (hs : inOrder (parts.map (g.run n)) ts p = some s) (hok : s.outcome = .ok values) :
    g.Passes ts parts p s.cursor := by
  induction parts generalizing p s values with
  | nil =>
    obtain rfl := Option.some.inj hs
    exact .nil p
  | cons part rest ih =>
    obtain ⟨t, ht, ⟨_, -, rfl⟩ | ⟨v, u, hv, hu, rfl⟩⟩ := inOrder_cons_cases hs
    · nomatch hok
    · cases ho : u.outcome with
      | error failure =>
        simp only [ho] at hok
        nomatch hok
      | ok vs =>
        have hrest : g.Passes ts rest t.cursor u.cursor := ih hu ho
        exact .cons ⟨n, ht⟩ hv hrest

/-- Of several rules one has failed, and those before it have matched. -/
theorem exists_part_of_inOrder {s : Step κ (List ν)}
    (hs : inOrder (parts.map (g.run n)) ts p = some s) (hf : s.outcome = .error failure) :
    ∃ before part after q t, parts = before ++ part :: after ∧ g.Passes ts before p q ∧
      g.run n part ts q = some t ∧ t.outcome = .error failure := by
  induction parts generalizing p s with
  | nil =>
    obtain rfl := Option.some.inj hs
    nomatch hf
  | cons part rest ih =>
    obtain ⟨t, ht, ⟨failure', hf', rfl⟩ | ⟨v, u, hv, hu, rfl⟩⟩ := inOrder_cons_cases hs
    · obtain rfl := Except.error.inj hf
      exact ⟨[], part, rest, p, t, rfl, .nil p, ht, hf'⟩
    · cases ho : u.outcome with
      | ok vs =>
        simp only [ho] at hf
        nomatch hf
      | error failure' =>
        simp only [ho] at hf
        obtain rfl := Except.error.inj hf
        obtain ⟨before, part', after, q, t', rfl, hpass, ht', hf'⟩ := ih hu ho
        exact ⟨part :: before, part', after, q, t', rfl, .cons ⟨n, ht⟩ hv hpass, ht', hf'⟩

/-- The error of a choice is that of an alternative, or it complains about the token at the cursor.
The error that was the furthest so far is that of an alternative before. -/
theorem exists_alternative_of_choiceFrom {alternatives : List (Rule κ ν)} {index : Nat}
    {best : Option ParseError} {s : Step κ ν}
    (hs : choiceFrom g.policy ts p index best (alternatives.map (g.run n)) = some s)
    (hf : s.outcome = .error failure) :
    (∃ before alternative after t, alternatives = before ++ alternative :: after ∧
      (∀ a ∈ before, ∃ fuel, Balks (g.run fuel a) ts p) ∧ g.run n alternative ts p = some t ∧
        t.outcome = .error failure) ∨
    ∃ e, failure = .backtrack e ∧ (e.IsAt ts p ∨ best = some e) := by
  induction alternatives generalizing index best s with
  | nil =>
    obtain rfl := Option.some.inj hs
    obtain rfl := Except.error.inj hf
    refine Or.inr ⟨_, rfl, ?_⟩
    unfold exhausted
    split
    · exact Or.inr rfl
    · exact Or.inl (ParseError.isAt_unexpected ts p)
  | cons alternative rest ih =>
    obtain ⟨t, ht, ⟨v, hv, rfl⟩ | ⟨e, he, rfl⟩ | ⟨e, u, he, hu, rfl⟩⟩ := choiceFrom_cons_cases hs
    · rw [hv] at hf
      nomatch hf
    · obtain rfl := Except.error.inj hf
      exact Or.inl ⟨[], alternative, rest, t, rfl, nofun, ht, he⟩
    · obtain ⟨before, a, after, t', rfl, hbefore, ht', hf'⟩ | ⟨e', rfl, hplace⟩ := ih hu hf
      · have hbalks : ∃ fuel, Balks (g.run fuel alternative) ts p := by
          obtain ⟨o, r, log⟩ := t
          obtain rfl : o = .error (.backtrack e) := he
          exact ⟨n, e, r, log, ht⟩
        exact Or.inl ⟨alternative :: before, a, after, t', rfl,
          List.forall_mem_cons.2 ⟨hbalks, hbefore⟩, ht', hf'⟩
      · obtain hplace | hfurthest := hplace
        · exact Or.inr ⟨e', rfl, Or.inl hplace⟩
        · -- either this alternative has come further than those before, or it has not
          obtain rfl := Option.some.inj hfurthest
          rcases furtherOf_cases best e with hnew | hbest
          · rw [hnew]
            exact Or.inl ⟨[], alternative, rest, t, rfl, nofun, ht, he⟩
          · exact Or.inr ⟨_, rfl, Or.inr hbest⟩

/-- Of the items of a list one has failed, behind as many rounds as there were. -/
theorem exists_item_of_itemsFrom {fuel count : Nat} {s : Step κ (List ν)}
    (hs : itemsFrom (g.run n item) delimiter ts fuel count p = some s)
    (hf : s.outcome = .error failure) :
    ∃ m q t failure', g.Rounds ts item delimiter m p q ∧ g.run n item ts q = some t ∧
      t.outcome = .error failure' ∧
        failure = if count + m = 0 then failure' else failure'.toCut := by
  induction fuel generalizing count p s failure with
  | zero => nomatch hs
  | succ fuel ih =>
    obtain ⟨t, ht, ⟨failure', _, hf', rfl⟩ | ⟨v, hv, ⟨hd, u, hu, rfl⟩ | ⟨-, rfl⟩⟩⟩ :=
      itemsFrom_cases hs
    · obtain rfl := Except.error.inj hf
      exact ⟨0, p, t, failure', .zero p, ht, hf', rfl⟩
    · cases ho : u.outcome with
      | ok vs =>
        simp only [ho] at hf
        nomatch hf
      | error failure' =>
        simp only [ho] at hf
        obtain rfl := Except.error.inj hf
        obtain ⟨m, q, t', failure'', hrounds, ht', hf', heq⟩ := ih hu ho
        refine ⟨m + 1, q, t', failure'', .succ ⟨n, ht⟩ hv (any_kind_iff.1 hd) hrounds, ht', hf', ?_⟩
        rw [heq, Nat.add_assoc, Nat.add_comm 1 m]
    · nomatch hf

/-- A rule that is not raw fails in one of the ways listed. -/
theorem failsBy_of_run (hraw : ∀ consume, rule ≠ .raw consume) {s : Step κ ν}
    (hs : g.run (n + 1) rule ts p = some s) (hf : s.outcome = .error failure) :
    g.FailsBy ts n (rule, p) failure := by
  -- it fails itself, or hands on the failure of a part, perhaps as a cut or as no cut any more
  cases rule with
  | tokens kinds build =>
    obtain ⟨-, -, ⟨v, -, rfl⟩ | ⟨message, -, rfl⟩⟩ | ⟨-, rfl⟩ := tokens_cases hs
    · nomatch hf
    · obtain rfl := Except.error.inj hf
      exact .own (.entry (ParseError.isAt_located _ ts p))
    · obtain rfl := Except.error.inj hf
      exact .own (.entry (ParseError.isAt_mismatch ts p _))
  | sequence parts build =>
    obtain ⟨t, ht, ⟨failure', hf', rfl⟩ | ⟨values, hv, ⟨v, -, rfl⟩ | ⟨message, -, rfl⟩⟩⟩ :=
      sequence_cases hs
    · obtain rfl := Except.error.inj hf
      obtain ⟨before, part, after, q, u, rfl, hpass, hu, hpart⟩ := exists_part_of_inOrder ht hf'
      exact .passed rfl (.part build hpass) hu hpart
    · nomatch hf
    · obtain rfl := Except.error.inj hf
      exact .own (.behind build (passes_of_inOrder ht hv) (ParseError.isAt_located _ ts _))
  | choice alternatives =>
    obtain ⟨before, a, after, t, rfl, hbefore, ht, hf'⟩ | ⟨e, rfl, hplace | hnone⟩ :=
      exists_alternative_of_choiceFrom hs hf
    · exact .passed rfl (.alternative hbefore) ht hf'
    · exact .own (.entry hplace)
    · nomatch hnone
  | optional body wrap =>
    obtain ⟨t, ht, rfl⟩ := Option.map_eq_some_iff.1 hs
    obtain ⟨_, -, ⟨v, -, rfl⟩ | ⟨_, _, -, rfl⟩⟩ := optional_cases ht
    · nomatch hf
    · nomatch hf
  | lookahead body =>
    obtain ⟨t, ht, ⟨v, -, rfl⟩ | ⟨failure', hf', rfl⟩⟩ := lookahead_cases hs
    · nomatch hf
    · obtain rfl := Except.error.inj hf
      exact .demoted ht hf'
  | list item delimiter wrap =>
    obtain ⟨t, ht, rfl⟩ := Option.map_eq_some_iff.1 hs
    obtain ⟨u, hu, ⟨values, -, rfl⟩ | ⟨failure', hf', rfl⟩⟩ := list_cases ht
    · nomatch hf
    · obtain rfl := Except.error.inj hf
      obtain ⟨m, q, w, failure'', hrounds, hw, hitem, rfl⟩ := exists_item_of_itemsFrom hu hf'
      -- behind a delimiter the failure of an item becomes a cut
      cases m with
      | zero => exact .passed rfl (.item wrap hrounds) hw hitem
      | succ m =>
        rw [if_neg (Nat.ne_of_gt (by omega))]
        exact .item wrap hrounds hw hitem
  | cut body =>
    obtain ⟨t, ht, ⟨v, -, rfl⟩ | ⟨failure', hf', rfl⟩⟩ := cut_cases hs
    · nomatch hf
    · obtain rfl := Except.error.inj hf
      exact .operand ht hf'
  | label name body =>
    obtain ⟨t, ht, -, ⟨v, -, ho⟩ | ⟨e, -, -, ho⟩ | ⟨e, he, -, ho⟩ | ⟨e, he, ho⟩⟩ := named_cases hs
    · rw [ho] at hf
      nomatch hf
    · rw [ho] at hf
      obtain rfl := Except.error.inj hf
      exact .own (.entry (ParseError.isAt_located _ ts p))
    -- a failure further on, and a cut, are handed on as they are
    all_goals
      rw [ho] at hf
      obtain rfl := Except.error.inj hf
      exact .passed rfl (.label name body p) ht he
  | map f body =>
    obtain ⟨t, ht, ⟨v, -, rfl⟩ | ⟨failure', hf', rfl⟩⟩ := map_cases hs
    · nomatch hf
    · obtain rfl := Except.error.inj hf
      exact .passed rfl (.map f body p) ht hf'
  | ref id =>
    simp only [run] at hs
    cases hd : g.definition? id with
    | none =>
      rw [hd] at hs
      obtain rfl := Option.some.inj hs
      obtain rfl := Except.error.inj hf
      exact .undefined hd (ParseError.isAt_located _ ts p)
    | some body =>
      rw [hd] at hs
      exact .passed rfl (.ref p hd) hs hf
  | raw consume => exact absurd rfl (hraw consume)

/-! ## Whole runs -/

/-- Whether an error arises at a cursor in the course of a run: a rule called in it fails with this
very error, which it has found there. -/
def Arises (g : Grammar κ ν) (ts : List (Token κ)) (c : Call κ ν) (e : ParseError) (q : Cursor) :
    Prop :=
  ∃ d, Relation.ReflTransGen (g.Calls ts) c d ∧ g.Blames ts d e q ∧
    ∃ s failure, g.Ends ts d s ∧ s.outcome = .error failure ∧ failure.error = e

theorem Arises.of_call {d : Call κ ν} (hcall : g.Calls ts c d) (h : g.Arises ts d e q) :
    g.Arises ts c e q := by
  obtain ⟨leaf, hcalls, hleaf⟩ := h
  exact ⟨leaf, .head hcall hcalls, hleaf⟩

/-- The error of a composed rule that fails arises in its run. -/
theorem exists_arises (hrule : g.Composed c.1) {s : Step κ ν} (hs : g.Ends ts c s)
    (hf : s.outcome = .error failure) : ∃ q, g.Arises ts c failure.error q := by
  obtain ⟨fuel, hs⟩ := hs
  -- what has been called has failed with less fuel
  induction fuel generalizing c s failure with
  | zero => nomatch hs
  | succ n ih =>
    obtain ⟨rule, p⟩ := c
    have hcalled {d : Call κ ν} {t : Step κ ν} {failure' : Failure} {e : ParseError}
        (hcall : g.Calls ts (rule, p) d) (ht : g.run n d.1 ts d.2 = some t)
        (hf' : t.outcome = .error failure') (he : failure'.error = e) :
        ∃ q, g.Arises ts (rule, p) e q := by
      obtain ⟨q, hq⟩ := ih (hrule.of_mem hcall.mem_parts) hf' ht
      exact ⟨q, he ▸ hq.of_call hcall⟩
    have hself : g.Ends ts (rule, p) s := ⟨n + 1, hs⟩
    cases failsBy_of_run hrule.ne_raw hs hf with
    | own hblames => exact ⟨_, _, .refl, hblames, s, _, hself, hf, rfl⟩
    | undefined hd hplace => exact ⟨_, _, .refl, .entry hplace, s, _, hself, hf, rfl⟩
    | passed _ hcall ht hf' => exact hcalled hcall ht hf' rfl
    | demoted ht hf' => exact hcalled (.lookahead _ _) ht hf' rfl
    | operand ht hf' => exact hcalled (.cut _ _) ht hf' rfl
    | item wrap hrounds ht hf' => exact hcalled (.item wrap hrounds) ht hf' rfl

theorem Arises.isAt (h : g.Arises ts c e q) : e.IsAt ts q := by
  obtain ⟨d, -, hblames, -⟩ := h
  cases hblames with
  | entry hplace => exact hplace
  | behind build _ hplace => exact hplace

/-- No error of a composed rule arises before the cursor, nor behind the end of the tokens unless
the rule was entered there. -/
theorem Arises.bounds (h : g.Arises ts c e q) (hrule : g.Composed c.1) :
    c.2 ≤ q ∧ q ≤ max c.2 ts.length := by
  obtain ⟨d, hcalls, hblames, -⟩ := h
  have hentry := bounds_of_calls hcalls hrule
  cases hblames with
  | entry _ => exact hentry
  | behind build hpass _ =>
    have hbehind := hpass.bounds fun part hpart => (hrule.of_calls hcalls).of_mem hpart
    grind

end Grammar

/-! ## Ascending tokens -/

namespace Consumer

variable {κ α : Type} {ts : List (Token κ)}

/-- Whether the failures of a consumer lie at the cursor it was called with, or further on. -/
def FailsBehind (c : Consumer κ α) (ts : List (Token κ)) : Prop :=
  ∀ p s failure, c ts p = some s → s.outcome = .error failure → siteAt ts p ≤ failure.error.site

namespace FailsBehind

theorem le_site_furtherOf {site : WithTop (ℕ ×ₗ ℕ)} {best : Option ParseError} {e : ParseError}
    (hbest : ∀ b, best = some b → site ≤ b.site) (he : site ≤ e.site) :
    site ≤ (furtherOf best e).site := by
  rcases furtherOf_cases best e with hnew | hold
  · rwa [hnew]
  · exact hbest _ hold

theorem le_site_exhausted (policy : ErrorPolicy) {best : Option ParseError} {p : Cursor}
    (hbest : ∀ b, best = some b → siteAt ts p ≤ b.site) :
    siteAt ts p ≤ (exhausted policy best ts p).site := by
  cases policy with
  | entry => exact (site_unexpected ts p).ge
  | furthest =>
    cases best with
    | none => exact (site_unexpected ts p).ge
    | some b => exact hbest b rfl

end FailsBehind

end Consumer

namespace Grammar

variable {κ ν : Type} [DecidableEq κ] {g : Grammar κ ν} {ts : List (Token κ)}

/-- Over ascending tokens no failure of a composed rule lies before the cursor. -/
theorem failsBehind_run (hts : Ascending ts) (fuel : Nat) {rule : Rule κ ν}
    (hrule : g.Composed rule) : Consumer.FailsBehind (g.run fuel rule) ts := by
  intro p s failure hs hf
  obtain ⟨q, hq⟩ := exists_arises (c := (rule, p)) hrule ⟨fuel, hs⟩ hf
  have hle : p ≤ q := (hq.bounds hrule).1
  rw [hq.isAt.site_eq]
  exact siteAt_mono hts hle

end Grammar

end Descent
