import Mathlib.Logic.Relation
import Descent.Rule.Fuel
import Descent.Proofs.Rule.Derivation

/-!
# The rules that a run runs

A run of a rule runs other rules in its turn: the parts of a sequence as long as they match, the
alternatives of a choice as long as they fail ordinarily, an item for every delimiter that is found
behind one, and otherwise the one rule inside. `Grammar.Calls` says which rules these are and from
which cursors they are run; it speaks of answers only and not of fuel. All that happens in a run is
what a chain of calls leads to.

Two lemmas tie calls to runs, and no combinator has to be opened for facts about whole runs again.

* `Calls.exists_run`: what a rule that ends calls has ended before, with less fuel.
* `exists_run_succ`: if everything ends that a rule calls, the rule ends. So nothing that a run
  waits for is left out.

Calls do not go back, and they do not lead behind the last token (`Calls.bounds`).
-/

namespace Descent

/-- Whether a rule keeps the cuts of the rule inside it to itself. -/
def Rule.shields {κ ν : Type} : Rule κ ν → Bool
  | .optional _ _ | .lookahead _ => true
  | _ => false

namespace Grammar

open Consumer (Balks Takes inOrder choiceFrom itemsFrom any_kind_iff inOrder_cons_cases
  sequence_cases choiceFrom_cons_cases itemsFrom_cases list_cases inOrder_cons_of_error
  sequence_of_error choiceFrom_cons_of_cut itemsFrom_of_cut list_of_error)

/-- A rule and the cursor from which it is run. -/
abbrev Call (κ ν : Type) := Rule κ ν × Cursor

variable {κ ν : Type} [DecidableEq κ] {g : Grammar κ ν} {ts : List (Token κ)} {rule item : Rule κ ν}
  {parts before after : List (Rule κ ν)} {delimiter : κ} {p q : Cursor} {m n : Nat} {c d : Call κ ν}

/-- Whether a call comes to an end, with whatever fuel, and to which. -/
def Ends (g : Grammar κ ν) (ts : List (Token κ)) (c : Call κ ν) (s : Step κ ν) : Prop :=
  ∃ fuel, g.run fuel c.1 ts c.2 = some s

theorem Ends.unique {s t : Step κ ν} (hs : g.Ends ts c s) (ht : g.Ends ts c t) : s = t := by
  obtain ⟨_, hs⟩ := hs
  obtain ⟨_, ht⟩ := ht
  exact run_unique hs ht

/-- A call that ends has some fuel. -/
theorem Ends.exists_run_succ {s : Step κ ν} (hs : g.Ends ts c s) :
    ∃ n, g.run (n + 1) c.1 ts c.2 = some s := by
  obtain ⟨n, hs⟩ := hs
  exact ⟨n, run_mono (Nat.le_succ n) hs⟩

/-- Whether a call comes to an end with an outcome and at a cursor. -/
def EndsWith (g : Grammar κ ν) (ts : List (Token κ)) (c : Call κ ν) (o : Except Failure ν)
    (q : Cursor) : Prop :=
  ∃ s, g.Ends ts c s ∧ s.outcome = o ∧ s.cursor = q

/-! ## Calls -/

/-- Whether rules match one after another, and from where to where. -/
inductive Passes (g : Grammar κ ν) (ts : List (Token κ)) : List (Rule κ ν) → Cursor → Cursor → Prop
  | nil (p : Cursor) : Passes g ts [] p p
  | cons {part : Rule κ ν} {rest : List (Rule κ ν)} {p q : Cursor} {s : Step κ ν} {v : ν} :
    g.Ends ts (part, p) s → s.outcome = .ok v → Passes g ts rest s.cursor q →
      Passes g ts (part :: rest) p q

/-- Whether an item matches some number of times with a delimiter behind it, and from where to
where. -/
inductive Rounds (g : Grammar κ ν) (ts : List (Token κ)) (item : Rule κ ν) (delimiter : κ) :
    Nat → Cursor → Cursor → Prop
  | zero (p : Cursor) : Rounds g ts item delimiter 0 p p
  | succ {m : Nat} {p q : Cursor} {s : Step κ ν} {v : ν} :
    g.Ends ts (item, p) s → s.outcome = .ok v → KindAt ts s.cursor delimiter →
      Rounds g ts item delimiter m (s.cursor + 1) q → Rounds g ts item delimiter (m + 1) p q

/-- The rules that a rule runs, each from a cursor of its own. -/
inductive Calls (g : Grammar κ ν) (ts : List (Token κ)) : Call κ ν → Call κ ν → Prop
  | part {before after : List (Rule κ ν)} {part : Rule κ ν} {p q : Cursor}
    (build : List ν → Except String ν) : g.Passes ts before p q →
      Calls g ts (.sequence (before ++ part :: after) build, p) (part, q)
  | alternative {before after : List (Rule κ ν)} {alternative : Rule κ ν} {p : Cursor} :
    (∀ a ∈ before, ∃ fuel, Balks (g.run fuel a) ts p) →
      Calls g ts (.choice (before ++ alternative :: after), p) (alternative, p)
  | item {item : Rule κ ν} {delimiter : κ} {m : Nat} {p q : Cursor} (wrap : List ν → ν) :
    g.Rounds ts item delimiter m p q → Calls g ts (.list item delimiter wrap, p) (item, q)
  | optional (body : Rule κ ν) (wrap : Option ν → ν) (p : Cursor) :
    Calls g ts (.optional body wrap, p) (body, p)
  | lookahead (body : Rule κ ν) (p : Cursor) : Calls g ts (.lookahead body, p) (body, p)
  | cut (body : Rule κ ν) (p : Cursor) : Calls g ts (.cut body, p) (body, p)
  | label (name : String) (body : Rule κ ν) (p : Cursor) :
    Calls g ts (.label name body, p) (body, p)
  | map (f : ν → ν) (body : Rule κ ν) (p : Cursor) : Calls g ts (.map f body, p) (body, p)
  | ref {id : Nat} {body : Rule κ ν} (p : Cursor) :
    g.definition? id = some body → Calls g ts (.ref id, p) (body, p)

theorem Calls.mem_parts (h : g.Calls ts c d) : d.1 ∈ g.parts c.1 := by
  cases h with
  | part build _ => exact List.mem_append_right _ List.mem_cons_self
  | alternative _ => exact List.mem_append_right _ List.mem_cons_self
  | ref p hd => exact mem_parts_ref hd
  | _ => exact List.mem_singleton_self _

/-- What is called in a run stands in the graph of the rule. -/
theorem occurs_of_calls (h : Relation.ReflTransGen (g.Calls ts) c d) : g.Occurs c.1 d.1 := by
  induction h using Relation.ReflTransGen.head_induction_on with
  | refl => exact .self _
  | head hcall _ ih => exact .part hcall.mem_parts ih

theorem Composed.of_calls (hrule : g.Composed c.1) (h : Relation.ReflTransGen (g.Calls ts) c d) :
    g.Composed d.1 := by
  induction h with
  | refl => exact hrule
  | tail _ hcall ih => exact ih.of_mem hcall.mem_parts

/-! ## What is called has ended -/

/-- Behind parts that match, the run of a sequence is that of the other parts. -/
theorem Passes.exists_inOrder (h : g.Passes ts before p q) {s : Step κ (List ν)}
    (hs : inOrder ((before ++ after).map (g.run n)) ts p = some s) :
    ∃ u, inOrder (after.map (g.run n)) ts q = some u ∧
      ∀ failure, u.outcome = .error failure → s.outcome = .error failure := by
  induction h generalizing s with
  | nil p => exact ⟨s, hs, fun _ hf => hf⟩
  | cons hpart hok _ ih =>
    obtain ⟨t, ht, ⟨failure, hf, rfl⟩ | ⟨v, u, -, hu, rfl⟩⟩ := inOrder_cons_cases hs
    · obtain rfl := hpart.unique ⟨n, ht⟩
      rw [hok] at hf
      nomatch hf
    · obtain rfl := hpart.unique ⟨n, ht⟩
      obtain ⟨w, hw, hfails⟩ := ih hu
      refine ⟨w, hw, fun failure hf => ?_⟩
      simp only [hfails failure hf, Except.map]

/-- Behind alternatives that balk, the run of a choice is that of the other alternatives. -/
theorem exists_choiceFrom_of_balks (h : ∀ a ∈ before, ∃ fuel, Balks (g.run fuel a) ts p)
    {index : Nat} {best : Option ParseError} {s : Step κ ν}
    (hs : choiceFrom g.policy ts p index best ((before ++ after).map (g.run n)) = some s) :
    ∃ index best u, choiceFrom g.policy ts p index best (after.map (g.run n)) = some u ∧
      s.outcome = u.outcome := by
  induction before generalizing index best s with
  | nil => exact ⟨index, best, s, hs, rfl⟩
  | cons a before ih =>
    obtain ⟨⟨fuel, e, r, log, hbalks⟩, hbefore⟩ := List.forall_mem_cons.1 h
    obtain ⟨t, ht, hcases⟩ := choiceFrom_cons_cases hs
    obtain rfl := run_unique hbalks ht
    obtain ⟨v, hv, -⟩ | ⟨e', he, -⟩ | ⟨e', u, -, hu, rfl⟩ := hcases
    · nomatch hv
    · nomatch he
    · obtain ⟨index', best', w, hw, hsame⟩ := ih hbefore hu
      exact ⟨index', best', w, hw, hsame⟩

/-- Behind some rounds, the run of a list is that of the other rounds. -/
theorem Rounds.exists_itemsFrom (h : g.Rounds ts item delimiter m p q) {fuel count : Nat}
    {s : Step κ (List ν)} (hs : itemsFrom (g.run n item) delimiter ts fuel count p = some s) :
    ∃ fuel u, itemsFrom (g.run n item) delimiter ts fuel (count + m) q = some u ∧
      ∀ failure, u.outcome = .error failure → s.outcome = .error failure := by
  induction h generalizing fuel count s with
  | zero p => exact ⟨fuel, s, hs, fun _ hf => hf⟩
  | @succ m p q t v hitem hok hdelimiter _ ih =>
    cases fuel with
    | zero => nomatch hs
    | succ fuel =>
      obtain ⟨t', ht, hcases⟩ := itemsFrom_cases hs
      obtain rfl := hitem.unique ⟨n, ht⟩
      obtain ⟨failure, _, hf, -⟩ | ⟨v', -, ⟨-, u, hu, rfl⟩ | ⟨hnot, -⟩⟩ := hcases
      · rw [hok] at hf
        nomatch hf
      · obtain ⟨fuel', w, hw, hfails⟩ := ih hu
        rw [Nat.add_assoc, Nat.add_comm 1 m] at hw
        refine ⟨fuel', w, hw, fun failure hf => ?_⟩
        simp only [hfails failure hf, Except.map]
      · exact absurd (any_kind_iff.2 hdelimiter) hnot

/-- What a rule that ends has called has ended, with less fuel; and if it was a cut, then so is the
end of the rule, unless that shields. -/
theorem Calls.exists_run (h : g.Calls ts c d) {s : Step κ ν}
    (hs : g.run (n + 1) c.1 ts c.2 = some s) :
    ∃ t, g.run n d.1 ts d.2 = some t ∧ (c.1.shields = false →
      ∀ e, t.outcome = .error (.cut e) → s.outcome = .error (.cut e)) := by
  cases h with
  | part build hpass =>
    -- the parts before have passed, so the sequence gets to this one and fails with it
    obtain ⟨u, hu, -⟩ := sequence_cases hs
    obtain ⟨w, hw, hfails⟩ := hpass.exists_inOrder hu
    obtain ⟨t, ht, -⟩ := inOrder_cons_cases hw
    refine ⟨t, ht, fun _ e he => sequence_of_error hs hu (hfails _ ?_)⟩
    exact inOrder_cons_of_error hw ht he
  | alternative hbefore =>
    obtain ⟨_, _, u, hu, hsame⟩ := exists_choiceFrom_of_balks hbefore hs
    obtain ⟨t, ht, -⟩ := choiceFrom_cons_cases hu
    refine ⟨t, ht, fun _ e he => ?_⟩
    rw [hsame]
    exact choiceFrom_cons_of_cut hu ht he
  | item wrap hrounds =>
    obtain ⟨u, hu, rfl⟩ := Option.map_eq_some_iff.1 hs
    obtain ⟨w, hw, -⟩ := list_cases hu
    obtain ⟨fuel, x, hx, hfails⟩ := hrounds.exists_itemsFrom hw
    cases fuel with
    | zero => nomatch hx
    | succ fuel =>
      obtain ⟨t, ht, -⟩ := itemsFrom_cases hx
      refine ⟨t, ht, fun _ e he => ?_⟩
      have hlist := list_of_error hu hw (hfails _ (itemsFrom_of_cut hx ht he))
      simp only [hlist, Except.map]
  -- these two shield, so it is enough that the body ends
  | optional body wrap p =>
    obtain ⟨u, hu, rfl⟩ := Option.map_eq_some_iff.1 hs
    obtain ⟨t, ht, -⟩ := Option.map_eq_some_iff.1 hu
    exact ⟨t, ht, nofun⟩
  | lookahead body p =>
    obtain ⟨t, ht, -⟩ := Option.map_eq_some_iff.1 hs
    exact ⟨t, ht, nofun⟩
  | cut body p =>
    obtain ⟨t, ht, rfl⟩ := Option.map_eq_some_iff.1 hs
    exact ⟨t, ht, fun _ e he => by simp only [he]; rfl⟩
  | label name body p =>
    obtain ⟨t, ht, rfl⟩ := Option.map_eq_some_iff.1 hs
    exact ⟨t, ht, fun _ e he => by simp only [he]; exact he⟩
  | map f body p =>
    obtain ⟨t, ht, rfl⟩ := Option.map_eq_some_iff.1 hs
    exact ⟨t, ht, fun _ e he => by simp only [he]; rfl⟩
  | ref p hd =>
    simp only [run, hd] at hs
    exact ⟨s, hs, fun _ e he => he⟩

/-- A chain of calls leads from a rule that ends to another one that does. -/
theorem exists_ends_of_calls (h : Relation.ReflTransGen (g.Calls ts) c d) {s : Step κ ν}
    (hs : g.Ends ts c s) : ∃ t, g.Ends ts d t := by
  induction h with
  | refl => exact ⟨s, hs⟩
  | tail _ hcall ih =>
    obtain ⟨t, fuel, ht⟩ := ih
    obtain ⟨u, hu, -⟩ := hcall.exists_run (run_mono (Nat.le_succ fuel) ht)
    exact ⟨u, fuel, hu⟩

/-! ## Cursors -/

/-- A composed rule that matches does not go back, nor behind the last token. -/
theorem Ends.bounds {s : Step κ ν} {v : ν} (hs : g.Ends ts c s) (hrule : g.Composed c.1)
    (hok : s.outcome = .ok v) : c.2 ≤ s.cursor ∧ s.cursor ≤ max c.2 ts.length := by
  obtain ⟨fuel, hs⟩ := hs
  obtain ⟨taken, hstretch, -⟩ := takes_run fuel hrule ts c.2 s v hs hok
  exact ⟨hstretch.le, hstretch.le_max⟩

theorem Passes.bounds (h : g.Passes ts parts p q) (hparts : ∀ part ∈ parts, g.Composed part) :
    p ≤ q ∧ q ≤ max p ts.length := by
  induction h with
  | nil p => exact ⟨Nat.le_refl p, Nat.le_max_left p _⟩
  | cons hpart hok _ ih =>
    obtain ⟨hfirst, hrest⟩ := List.forall_mem_cons.1 hparts
    have hpart := hpart.bounds hfirst hok
    have hbehind := ih hrest
    grind

theorem Rounds.bounds (h : g.Rounds ts item delimiter m p q) (hitem : g.Composed item) :
    p + m ≤ q ∧ q ≤ max p ts.length := by
  induction h with
  | zero p => exact ⟨Nat.le_refl p, Nat.le_max_left p _⟩
  | succ hends hok hdelimiter _ ih =>
    have hround := hends.bounds hitem hok
    have hlt := hdelimiter.lt
    grind

/-- A call is made where the caller was entered or further on, and not behind the last token unless
the caller was. -/
theorem Calls.bounds (h : g.Calls ts c d) (hrule : g.Composed c.1) :
    c.2 ≤ d.2 ∧ d.2 ≤ max c.2 ts.length := by
  cases h with
  | part build hpass =>
    refine hpass.bounds fun part hpart => hrule.of_mem ?_
    exact List.mem_append_left _ hpart
  | item wrap hrounds =>
    have hbounds := hrounds.bounds (hrule.of_mem List.mem_cons_self)
    grind
  | _ => exact ⟨Nat.le_refl _, Nat.le_max_left _ _⟩

theorem bounds_of_calls (h : Relation.ReflTransGen (g.Calls ts) c d) (hrule : g.Composed c.1) :
    c.2 ≤ d.2 ∧ d.2 ≤ max c.2 ts.length := by
  induction h with
  | refl => exact ⟨Nat.le_refl _, Nat.le_max_left _ _⟩
  | tail hcalls hcall ih =>
    have hlast := hcall.bounds (hrule.of_calls hcalls)
    grind

/-! ## What calls nothing that goes on for ever has ended -/

theorem exists_inOrder
    (h : ∀ before part after, parts = before ++ part :: after → ∀ q, g.Passes ts before p q →
      ∃ t, g.run n part ts q = some t) :
    ∃ s, inOrder (parts.map (g.run n)) ts p = some s := by
  -- what has been passed becomes part of the hypothesis
  induction parts generalizing p with
  | nil => exact ⟨_, rfl⟩
  | cons part rest ih =>
    obtain ⟨t, ht⟩ := h [] part rest rfl p (.nil p)
    rw [List.map_cons, inOrder, ht, Option.bind_some]
    cases ho : t.outcome with
    | error failure => exact ⟨_, rfl⟩
    | ok v =>
      obtain ⟨u, hu⟩ := ih fun before part' after heq q hpass =>
        h (part :: before) part' after (by rw [heq, List.cons_append]) q (.cons ⟨n, ht⟩ ho hpass)
      exact ⟨_, by simp only [hu, Option.map_some]; rfl⟩

theorem exists_choiceFrom {alternatives : List (Rule κ ν)} (index : Nat) (best : Option ParseError)
    (h : ∀ before alternative after, alternatives = before ++ alternative :: after →
      (∀ a ∈ before, ∃ fuel, Balks (g.run fuel a) ts p) →
        ∃ t, g.run n alternative ts p = some t) :
    ∃ s, choiceFrom g.policy ts p index best (alternatives.map (g.run n)) = some s := by
  induction alternatives generalizing index best with
  | nil => exact ⟨_, rfl⟩
  | cons alternative rest ih =>
    obtain ⟨⟨o, r, log⟩, ht⟩ := h [] alternative rest rfl nofun
    rw [List.map_cons, choiceFrom, ht, Option.bind_some]
    cases o with
    | ok v => exact ⟨_, rfl⟩
    | error failure =>
      cases failure with
      | cut e => exact ⟨_, rfl⟩
      | backtrack e =>
        have hbalks : ∃ fuel, Balks (g.run fuel alternative) ts p := ⟨n, e, r, log, ht⟩
        obtain ⟨u, hu⟩ := ih (index + 1) (some (Consumer.furtherOf best e))
          fun before a after heq hbefore =>
            h (alternative :: before) a after (by rw [heq, List.cons_append])
              (List.forall_mem_cons.2 ⟨hbalks, hbefore⟩)
        exact ⟨_, by simp only [hu, Option.map_some]; rfl⟩

theorem exists_itemsFrom (hitem : g.Composed item) {fuel : Nat} (hfuel : ts.length - p < fuel)
    (count : Nat)
    (h : ∀ m q, g.Rounds ts item delimiter m p q → ∃ t, g.run n item ts q = some t) :
    ∃ s, itemsFrom (g.run n item) delimiter ts fuel count p = some s := by
  -- every further round has taken a delimiter, so the tokens left bound the rounds
  induction fuel generalizing p count with
  | zero => exact absurd hfuel (Nat.not_lt_zero _)
  | succ fuel ih =>
    obtain ⟨t, ht⟩ := h 0 p (.zero p)
    rw [itemsFrom, ht, Option.bind_some]
    cases ho : t.outcome with
    | error failure =>
      by_cases hcount : count = 0
      · exact ⟨_, if_pos hcount⟩
      · exact ⟨_, if_neg hcount⟩
    | ok v =>
      have hends : g.Ends ts (item, p) t := ⟨n, ht⟩
      by_cases hd : KindAt ts t.cursor delimiter
      · have hround := hends.bounds hitem ho
        have hlt := hd.lt
        obtain ⟨u, hu⟩ := @ih (t.cursor + 1) (by grind) (count + 1)
          fun m q hrounds => h (m + 1) q (.succ hends ho hd hrounds)
        simp only [if_pos (any_kind_iff.2 hd), Cursor.advance, hu]
        exact ⟨_, rfl⟩
      · exact ⟨_, if_neg (mt any_kind_iff.1 hd)⟩

/-- A composed rule ends if everything ends that it calls, and with just a little more fuel. -/
theorem exists_run_succ (hrule : g.Composed rule)
    (h : ∀ d, g.Calls ts (rule, p) d → ∃ t, g.run n d.1 ts d.2 = some t) :
    ∃ s, g.run (n + 1) rule ts p = some s := by
  -- the rules with one rule inside end as soon as that one does
  have hmap {α β : Type} (f : α → β) {o : Option α} (ho : ∃ t, o = some t) :
      ∃ s, o.map f = some s := by
    obtain ⟨t, rfl⟩ := ho
    exact ⟨f t, rfl⟩
  cases rule with
  | tokens kinds build =>
    simp only [run, Consumer.tokens]
    split
    · split <;> exact ⟨_, rfl⟩
    · exact ⟨_, rfl⟩
  | sequence parts build =>
    refine hmap _ (exists_inOrder fun before part after heq q hpass => ?_)
    subst heq
    exact h (part, q) (.part build hpass)
  | choice alternatives =>
    refine exists_choiceFrom 0 none fun before alternative after heq hbefore => ?_
    subst heq
    exact h (alternative, p) (.alternative hbefore)
  | optional body wrap => exact hmap _ (hmap _ (h (body, p) (.optional body wrap p)))
  | lookahead body => exact hmap _ (h (body, p) (.lookahead body p))
  | list item delimiter wrap =>
    have hitem : g.Composed item := hrule.of_mem List.mem_cons_self
    have hfuel : ts.length - p < ts.length + 1 := by omega
    refine hmap _ (hmap _ (exists_itemsFrom hitem hfuel 0 fun m q hrounds => ?_))
    exact h (item, q) (.item wrap hrounds)
  | cut body => exact hmap _ (h (body, p) (.cut body p))
  | label name body => exact hmap _ (h (body, p) (.label name body p))
  | map f body => exact hmap _ (h (body, p) (.map f body p))
  | ref id =>
    simp only [run]
    cases hd : g.definition? id with
    | none => exact ⟨_, rfl⟩
    | some body => exact h (body, p) (.ref p hd)
  | raw consume => exact absurd rfl (hrule.ne_raw consume)

end Grammar

end Descent
