import Descent.Rule.Basic

/-!
# More fuel never changes an answer

A combinator uses its parts only through the answers that they give, so parts that answer more often
make a combinator that answers more often, and with the same answers. For a rule this means that two
amounts of fuel never disagree (`run_mono`), which is why statements about rules may speak of a run
that ends and leave open how much fuel it had.
-/

namespace Descent

namespace Consumer

variable {κ α β γ : Type}

/-- Whether a consumer gives every answer that another gives. -/
def Extends (c d : Consumer κ α) : Prop := ∀ ts p s, c ts p = some s → d ts p = some s

namespace Extends

theorem refl (c : Consumer κ α) : Extends c c := fun _ _ _ h => h

theorem never (c : Consumer κ α) : Extends (fun _ _ => none) c := fun _ _ _ h => nomatch h

variable {c d : Consumer κ α}

theorem inOrder {f g : γ → Consumer κ α} (h : ∀ x, Extends (f x) (g x)) (xs : List γ) :
    Extends (Consumer.inOrder (xs.map f)) (Consumer.inOrder (xs.map g)) := by
  induction xs with
  | nil => exact refl _
  | cons x xs ih =>
    intro ts p s hs
    simp only [List.map_cons, Consumer.inOrder, Option.bind_eq_some_iff] at hs ⊢
    obtain ⟨first, hfirst, hs⟩ := hs
    refine ⟨first, h x ts p first hfirst, ?_⟩
    cases ho : first.outcome with
    | error failure => simpa only [ho] using hs
    | ok value =>
      simp only [ho, Option.map_eq_some_iff] at hs ⊢
      obtain ⟨rest, hrest, rfl⟩ := hs
      exact ⟨rest, ih ts _ rest hrest, rfl⟩

theorem map (f : α → β) (h : Extends c d) : Extends (Consumer.map f c) (Consumer.map f d) := by
  intro ts p s hs
  obtain ⟨t, ht, rfl⟩ := Option.map_eq_some_iff.1 hs
  exact Option.map_eq_some_iff.2 ⟨t, h ts p t ht, rfl⟩

theorem sequence {f g : γ → Consumer κ α} (h : ∀ x, Extends (f x) (g x)) (xs : List γ)
    (build : List α → Except String β) :
    Extends (Consumer.sequence (xs.map f) build) (Consumer.sequence (xs.map g) build) := by
  intro ts p s hs
  obtain ⟨t, ht, rfl⟩ := Option.map_eq_some_iff.1 hs
  exact Option.map_eq_some_iff.2 ⟨t, inOrder h xs ts p t ht, rfl⟩

theorem choiceFrom {f g : γ → Consumer κ α} (h : ∀ x, Extends (f x) (g x)) (policy : ErrorPolicy)
    (ts : List (Token κ)) (p : Cursor) (xs : List γ) (index : Nat) (best : Option ParseError)
    (s : Step κ α) (hs : Consumer.choiceFrom policy ts p index best (xs.map f) = some s) :
    Consumer.choiceFrom policy ts p index best (xs.map g) = some s := by
  induction xs generalizing index best s with
  | nil => exact hs
  | cons x xs ih =>
    simp only [List.map_cons, Consumer.choiceFrom, Option.bind_eq_some_iff] at hs ⊢
    obtain ⟨first, hfirst, hs⟩ := hs
    refine ⟨first, h x ts p first hfirst, ?_⟩
    cases ho : first.outcome with
    | ok value => simpa only [ho] using hs
    | error failure =>
      cases failure with
      | cut e => simpa only [ho] using hs
      | backtrack e =>
        simp only [ho, Option.map_eq_some_iff] at hs ⊢
        obtain ⟨rest, hrest, rfl⟩ := hs
        exact ⟨rest, ih _ _ rest hrest, rfl⟩

theorem choice {f g : γ → Consumer κ α} (h : ∀ x, Extends (f x) (g x)) (policy : ErrorPolicy)
    (xs : List γ) :
    Extends (Consumer.choice policy (xs.map f)) (Consumer.choice policy (xs.map g)) :=
  fun ts p s hs => choiceFrom h policy ts p xs 0 none s hs

theorem optional (h : Extends c d) : Extends (Consumer.optional c) (Consumer.optional d) := by
  intro ts p s hs
  obtain ⟨t, ht, rfl⟩ := Option.map_eq_some_iff.1 hs
  exact Option.map_eq_some_iff.2 ⟨t, h ts p t ht, rfl⟩

theorem lookahead (h : Extends c d) : Extends (Consumer.lookahead c) (Consumer.lookahead d) := by
  intro ts p s hs
  obtain ⟨t, ht, rfl⟩ := Option.map_eq_some_iff.1 hs
  exact Option.map_eq_some_iff.2 ⟨t, h ts p t ht, rfl⟩

theorem cut (h : Extends c d) : Extends (Consumer.cut c) (Consumer.cut d) := by
  intro ts p s hs
  obtain ⟨t, ht, rfl⟩ := Option.map_eq_some_iff.1 hs
  exact Option.map_eq_some_iff.2 ⟨t, h ts p t ht, rfl⟩

theorem named (name : String) (h : Extends c d) :
    Extends (Consumer.named name c) (Consumer.named name d) := by
  intro ts p s hs
  obtain ⟨t, ht, rfl⟩ := Option.map_eq_some_iff.1 hs
  exact Option.map_eq_some_iff.2 ⟨t, h ts p t ht, rfl⟩

variable [DecidableEq κ]

theorem itemsFrom (h : Extends c d) (delimiter : κ) (ts : List (Token κ)) (fuel count : Nat)
    (p : Cursor) (s : Step κ (List α))
    (hs : Consumer.itemsFrom c delimiter ts fuel count p = some s) :
    Consumer.itemsFrom d delimiter ts fuel count p = some s := by
  induction fuel generalizing count p s with
  | zero => exact hs
  | succ fuel ih =>
    simp only [Consumer.itemsFrom, Option.bind_eq_some_iff] at hs ⊢
    obtain ⟨item, hitem, hs⟩ := hs
    refine ⟨item, h ts p item hitem, ?_⟩
    cases ho : item.outcome with
    | error failure => simpa only [ho] using hs
    | ok value =>
      simp only [ho] at hs ⊢
      split at hs
      · rename_i hd
        rw [if_pos hd]
        obtain ⟨rest, hrest, rfl⟩ := Option.map_eq_some_iff.1 hs
        exact Option.map_eq_some_iff.2 ⟨rest, ih _ _ rest hrest, rfl⟩
      · rename_i hd
        rw [if_neg hd]
        exact hs

theorem list (h : Extends c d) (delimiter : κ) :
    Extends (Consumer.list c delimiter) (Consumer.list d delimiter) := by
  intro ts p s hs
  obtain ⟨t, ht, rfl⟩ := Option.map_eq_some_iff.1 hs
  exact Option.map_eq_some_iff.2 ⟨t, itemsFrom h delimiter ts _ _ _ t ht, rfl⟩

end Extends

end Consumer

namespace Grammar

variable {κ ν : Type} [DecidableEq κ] {g : Grammar κ ν}

open Consumer (Extends)

theorem run_extends_succ (fuel : Nat) (rule : Rule κ ν) :
    Extends (g.run fuel rule) (g.run (fuel + 1) rule) := by
  induction fuel generalizing rule with
  | zero => exact Extends.never _
  | succ fuel ih =>
    cases rule with
    | tokens kinds build => exact Extends.refl _
    | sequence parts build => exact Extends.sequence ih parts build
    | choice alternatives => exact Extends.choice ih g.policy alternatives
    | optional body wrap => exact Extends.map wrap (Extends.optional (ih body))
    | lookahead body => exact Extends.lookahead (ih body)
    | list item delimiter wrap => exact Extends.map wrap (Extends.list (ih item) delimiter)
    | cut body => exact Extends.cut (ih body)
    | label name body => exact Extends.named name (ih body)
    | map f body => exact Extends.map f (ih body)
    | ref id =>
      intro ts p s hs
      simp only [run] at hs ⊢
      cases hd : g.definition? id with
      | none => simpa only [hd] using hs
      | some rule => exact ih rule ts p s (by simpa only [hd] using hs)
    | raw consume => exact Extends.refl _

/-- What a rule answers with some fuel it answers with more. -/
theorem run_mono {m n : Nat} (h : m ≤ n) {rule : Rule κ ν} {ts : List (Token κ)} {p : Cursor}
    {s : Step κ ν} (hs : g.run m rule ts p = some s) : g.run n rule ts p = some s := by
  induction h with
  | refl => exact hs
  | step _ ih => exact run_extends_succ _ rule ts p s ih

/-- Two runs of a rule that end have the same answer. -/
theorem run_unique {m n : Nat} {rule : Rule κ ν} {ts : List (Token κ)} {p : Cursor}
    {s t : Step κ ν} (hs : g.run m rule ts p = some s) (ht : g.run n rule ts p = some t) :
    s = t := by
  have hm := run_mono (Nat.le_max_left m n) hs
  have hn := run_mono (Nat.le_max_right m n) ht
  exact Option.some.inj (hm.symm.trans hn)

end Grammar

end Descent
