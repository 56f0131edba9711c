import Descent.Rule.Basic
import Descent.Proofs.Rule.Cases
import Descent.Rule.Primitive

/-!
# A failure leaves the cursor where it was

Backtracking works because a rule that fails gives back the cursor it was entered with. Sequences,
choices, options, lists and looking ahead see to it themselves: they try from a copy, so it does not
matter what their parts do to theirs. Cuts, names, maps and references lend their caller's cursor to
the one rule inside them and rely on it.

* `Consumer.Restores` is the property, with one lemma for each combinator; those that see to it
  themselves ask nothing of their parts.
* `Grammar.Lends` says which rules get the caller's own cursor.
* `Grammar.cursor_eq_of_failure` puts the two together for whole runs: only raw rules that get the
  caller's own cursor have to be well behaved.
-/

namespace Descent

namespace Consumer

variable {κ α β : Type}

/-- Whether a consumer that fails leaves the cursor where it was. -/
def Restores (c : Consumer κ α) : Prop :=
  ∀ ts p s failure, c ts p = some s → s.outcome = .error failure → s.cursor = p

namespace Restores

/-! ## Combinators that see to it themselves -/

theorem never : Restores (fun _ _ => none : Consumer κ α) := fun _ _ _ _ h => nomatch h

theorem tokens [DecidableEq κ] (kinds : List κ) (build : List (Token κ) → Except String α) :
    Restores (Consumer.tokens kinds build) := by
  intro ts p s failure h hf
  obtain ⟨-, -, ⟨value, -, rfl⟩ | ⟨message, -, rfl⟩⟩ | ⟨-, rfl⟩ := tokens_cases h
  · simp [Step.ok] at hf
  · rfl
  · rfl

theorem sequence (parts : List (Consumer κ α)) (build : List α → Except String β) :
    Restores (Consumer.sequence parts build) := by
  intro ts p s failure h hf
  obtain ⟨t, -, ⟨_, -, rfl⟩ | ⟨_, -, ⟨value, -, rfl⟩ | ⟨message, -, rfl⟩⟩⟩ := sequence_cases h
  · rfl
  · simp at hf
  · rfl

theorem choiceFrom (policy : ErrorPolicy) (ts : List (Token κ)) (p : Cursor)
    (alternatives : List (Consumer κ α)) {index : Nat} {best : Option ParseError} {s : Step κ α}
    {failure : Failure} (h : Consumer.choiceFrom policy ts p index best alternatives = some s)
    (hf : s.outcome = .error failure) : s.cursor = p := by
  -- index and best error change from one alternative to the next, the entry cursor does not
  induction alternatives generalizing index best s with
  | nil =>
    obtain rfl := Option.some.inj h
    rfl
  | cons alternative rest ih =>
    obtain ⟨t, -, ⟨value, ho, rfl⟩ | ⟨e, -, rfl⟩ | ⟨e, u, -, hu, rfl⟩⟩ := choiceFrom_cons_cases h
    · rw [ho] at hf
      simp at hf
    · rfl
    · have hcursor : u.cursor = p := ih hu hf
      exact hcursor

theorem choice (policy : ErrorPolicy) (alternatives : List (Consumer κ α)) :
    Restores (Consumer.choice policy alternatives) :=
  fun ts p _ _ h hf => choiceFrom policy ts p alternatives h hf

/-- An option never fails. -/
theorem optional (part : Consumer κ α) : Restores (Consumer.optional part) := by
  intro ts p s failure h hf
  obtain ⟨t, -, ⟨value, -, rfl⟩ | ⟨_, _, -, rfl⟩⟩ := optional_cases h <;> simp at hf

theorem lookahead (part : Consumer κ α) : Restores (Consumer.lookahead part) := by
  intro ts p s failure h _
  obtain ⟨t, -, rfl⟩ := Option.map_eq_some_iff.1 h
  rfl

theorem list [DecidableEq κ] (item : Consumer κ α) (delimiter : κ) :
    Restores (Consumer.list item delimiter) := by
  intro ts p s failure h hf
  obtain ⟨t, -, ⟨values, -, rfl⟩ | ⟨_, -, rfl⟩⟩ := list_cases h
  · simp at hf
  · rfl

theorem undefined : Restores (Consumer.undefined : Consumer κ α) := by
  intro ts p s failure h _
  obtain rfl := Option.some.inj h
  rfl

/-! ## Combinators that lend their cursor -/

variable {part : Consumer κ α}

theorem cut (hpart : Restores part) : Restores (Consumer.cut part) := by
  intro ts p s failure h hf
  obtain ⟨t, ht, rfl⟩ := Option.map_eq_some_iff.1 h
  cases ho : t.outcome with
  | ok value =>
    simp only [ho] at hf
    nomatch hf
  | error _ => exact hpart ts p t _ ht ho

theorem map (f : α → β) (hpart : Restores part) : Restores (Consumer.map f part) := by
  intro ts p s failure h hf
  obtain ⟨t, ht, rfl⟩ := Option.map_eq_some_iff.1 h
  cases ho : t.outcome with
  | ok value => simp [ho, Except.map] at hf
  | error _ => exact hpart ts p t _ ht ho

theorem named (name : String) (hpart : Restores part) : Restores (Consumer.named name part) := by
  intro ts p s failure h hf
  obtain ⟨t, ht, hc, ⟨value, -, hs⟩ | ⟨e, ho, -, -⟩ | ⟨e, ho, -, -⟩ | ⟨e, ho, -⟩⟩ := named_cases h
  · rw [hs] at hf
    simp at hf
  all_goals rw [hc]; exact hpart ts p t _ ht ho

end Restores

end Consumer

namespace Grammar

variable {κ ν : Type} {g : Grammar κ ν}

/-- The rules that get the caller's own cursor when a rule is run: the rule itself, and what it
wraps in a cut, a name or a map or refers to. -/
inductive Lends (g : Grammar κ ν) : Rule κ ν → Rule κ ν → Prop
  | self (rule : Rule κ ν) : Lends g rule rule
  | cut {body leaf : Rule κ ν} : Lends g body leaf → Lends g (.cut body) leaf
  | label {body leaf : Rule κ ν} (name : String) :
    Lends g body leaf → Lends g (.label name body) leaf
  | map {body leaf : Rule κ ν} (f : ν → ν) : Lends g body leaf → Lends g (.map f body) leaf
  | ref {body leaf : Rule κ ν} {id : Nat} :
    g.definition? id = some body → Lends g body leaf → Lends g (.ref id) leaf

variable [DecidableEq κ]

theorem restores_run (fuel : Nat) {rule : Rule κ ν}
    (hraw : ∀ consume, g.Lends rule (.raw consume) →
      Consumer.Restores fun ts p => some (consume ts p)) :
    Consumer.Restores (g.run fuel rule) := by
  -- on the fuel and not on the rule, since a reference leads to another rule
  induction fuel generalizing rule with
  | zero => exact .never
  | succ fuel ih =>
    cases rule with
    | tokens kinds build => exact .tokens kinds build
    | sequence parts build => exact .sequence _ build
    | choice alternatives => exact .choice g.policy _
    | optional body wrap => exact .map wrap (.optional _)
    | lookahead body => exact .lookahead _
    | list item delimiter wrap => exact .map wrap (.list _ delimiter)
    | cut body => exact .cut (ih fun consume h => hraw consume (.cut h))
    | label name body => exact .named name (ih fun consume h => hraw consume (.label name h))
    | map f body => exact .map f (ih fun consume h => hraw consume (.map f h))
    | ref id =>
      simp only [run]
      cases hd : g.definition? id with
      | none => exact .undefined
      | some rule => exact ih fun consume h => hraw consume (.ref hd h)
    | raw consume => exact hraw consume (.self _)

/-- A run that fails, with whatever fuel, leaves the cursor where it was, if those raw rules do that
get the caller's own cursor. -/
theorem cursor_eq_of_failure {rule : Rule κ ν}
    (hraw : ∀ consume, g.Lends rule (.raw consume) → ∀ ts p failure,
      (consume ts p).outcome = .error failure → (consume ts p).cursor = p)
    {fuel : Nat} {ts : List (Token κ)} {p : Cursor} {s : Step κ ν} {failure : Failure}
    (hs : g.run fuel rule ts p = some s) (hf : s.outcome = .error failure) : s.cursor = p := by
  refine restores_run fuel (fun consume hlends => ?_) ts p s failure hs hf
  intro ts p t failure ht hf
  obtain rfl := Option.some.inj ht
  exact hraw consume hlends ts p failure hf

/-- Two tokens of the kind `true` end in a raw rule that runs off and fails. It stands beneath a
choice, so its moves are lost, and the cut around it all finds the cursor in its place. -/
theorem cursor_eq_of_failure_stray :
    let rule : Rule Bool Nat := .token true fun _ => .ok 0
    let stray : Rule Bool Nat := .failing false "astray" none 5
    let g : Grammar Bool Nat :=
      ⟨[some (.sequence [rule, .choice [.ref 0, stray]] fun _ => .ok 0)], .furthest⟩
    let t : Token Bool := ⟨true, "a", ⟨⟨0, 0⟩, ⟨0, 1⟩⟩, 0⟩
    ∃ s e, g.run 12 (.map id (.cut (.ref 0))) [t, t] 0 = some s ∧ s.outcome = .error (.cut e) ∧
      s.cursor = 0 := by
  intro rule stray g t
  obtain ⟨s, e, hs, hf⟩ : ∃ s e, g.run 12 (.map id (.cut (.ref 0))) [t, t] 0 = some s ∧
      s.outcome = .error (.cut e) := ⟨_, _, rfl, rfl⟩
  refine ⟨s, e, hs, hf, cursor_eq_of_failure (fun consume hlends => ?_) hs hf⟩
  -- behind the reference comes a sequence, which lends its cursor to nobody
  obtain _ | _ | _ | ⟨_, _ | ⟨_ | _ | _ | _ | ⟨hd, hlends⟩⟩⟩ := hlends
  obtain rfl := Option.some.inj hd
  cases hlends

end Grammar

end Descent
