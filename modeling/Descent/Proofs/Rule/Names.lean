import Descent.Proofs.Rule.Alike
import Descent.Proofs.Rule.Cases
import Descent.Proofs.Rule.Circles

/-!
# Names only change messages

A name replaces an error by other words, and does so only where the error points to the token at
which the named rule was entered; the new error points there as well. So a name moves no error, and
neither makes a failure a cut nor the other way round. All that the rules around it ask of an error
is its position, when they look for the furthest one or when they have names themselves. So two
rules that differ in names alone end at the same cursors with the same values, or fail in the same
way at the same positions (`Grammar.names_only_change_messages`).

Names also take fuel, one for each, so two such rules are compared with amounts of fuel of their
own: without its names a rule ends with the fuel that it has with them (`Grammar.unnamed_follows`),
and with the names it may need more for every step (`Grammar.follows_unnamed`).
-/

namespace Descent

/-! ## Taking the names away -/

namespace Rule

variable {κ ν : Type}

mutual

/-- The rule without any names in it. -/
def unnamed : Rule κ ν → Rule κ ν
  | tokens kinds build => tokens kinds build
  | sequence parts build => sequence (unnamedAll parts) build
  | choice alternatives => choice (unnamedAll alternatives)
  | optional body wrap => optional body.unnamed wrap
  | lookahead body => lookahead body.unnamed
  | list item delimiter wrap => list item.unnamed delimiter wrap
  | cut body => cut body.unnamed
  | label _ body => body.unnamed
  | map f body => map f body.unnamed
  | ref id => ref id
  | raw consume => raw consume

def unnamedAll : List (Rule κ ν) → List (Rule κ ν)
  | [] => []
  | rule :: rest => rule.unnamed :: unnamedAll rest

end

theorem unnamedAll_eq_map (rules : List (Rule κ ν)) : unnamedAll rules = rules.map unnamed := by
  induction rules with
  | nil => rfl
  | cons rule rest ih => rw [unnamedAll, ih, List.map_cons]

/-- To give a rule a name, or another one, makes no difference without names. -/
@[simp] theorem unnamed_named (name : String) (rule : Rule κ ν) :
    (rule.named name).unnamed = rule.unnamed := by
  cases rule <;> rfl

theorem size_le_sizes {rule : Rule κ ν} {rules : List (Rule κ ν)} (h : rule ∈ rules) :
    rule.size ≤ sizes rules := by
  induction rules with
  | nil => nomatch h
  | cons first rest ih =>
    rw [sizes]
    obtain rfl | hrest := List.mem_cons.1 h
    · exact Nat.le_add_right _ _
    · exact Nat.le_add_left_of_le (ih hrest)

end Rule

namespace Grammar

variable {κ ν : Type} {g : Grammar κ ν} {rule : Rule κ ν}

/-- The same grammar without any names in its rules. -/
def unnamed (g : Grammar κ ν) : Grammar κ ν :=
  ⟨g.definitions.map (Option.map Rule.unnamed), g.policy⟩

theorem definition?_unnamed (g : Grammar κ ν) (id : Nat) :
    g.unnamed.definition? id = (g.definition? id).map Rule.unnamed := by
  rw [definition?, unnamed, List.getElem?_map, definition?]
  rcases g.definitions[id]? with _ | _ | _ <;> rfl

theorem size_lt_of_mem_parts {part : Rule κ ν} (h : part ∈ g.parts rule) :
    part.size < g.size + rule.size := by
  rw [Rule.size_eq_sizes_children rule]
  obtain hchild | hdefinition := mem_children_or_definition h
  · have hle := Rule.size_le_sizes hchild
    omega
  · have hle : part.size ≤ g.size := Rule.size_le_sizes hdefinition
    omega

end Grammar

/-! ## Errors at the same place -/

/-- Whether two errors have the same position; messages and spans may differ. -/
def SamePosition (e other : ParseError) : Prop := e.position = other.position

namespace SamePosition

variable {e e' e'' other other' : ParseError}

theorem refl (e : ParseError) : SamePosition e e := rfl

theorem symm (h : SamePosition e e') : SamePosition e' e := Eq.symm h

theorem trans (h : SamePosition e e') (h' : SamePosition e' e'') : SamePosition e e'' :=
  Eq.trans h h'

theorem isFurtherThan_eq (h : SamePosition e e') (hother : SamePosition other other') :
    e.isFurtherThan other = e'.isFurtherThan other' := by
  rw [ParseError.isFurtherThan, h, hother, ParseError.isFurtherThan]

end SamePosition

namespace Consumer

variable {κ α γ : Type} {ts : List (Token κ)} {p : Cursor}

theorem samePosition_furtherOf {best other : Option ParseError} {e e' : ParseError}
    (hbest : Option.Rel SamePosition best other) (he : SamePosition e e') :
    SamePosition (furtherOf best e) (furtherOf other e') := by
  cases hbest with
  | none => exact he
  | some hb =>
    rw [furtherOf, furtherOf, he.isFurtherThan_eq hb]
    split
    · exact he
    · exact hb

theorem samePosition_exhausted (policy : ErrorPolicy) {best other : Option ParseError}
    (h : Option.Rel SamePosition best other) (ts : List (Token κ)) (p : Cursor) :
    SamePosition (exhausted policy best ts p) (exhausted policy other ts p) := by
  cases policy with
  | entry => cases h <;> rfl
  | furthest =>
    cases h with
    | none => rfl
    | some he => exact he

namespace Follows

theorem trans_same {c d e : Consumer κ α} (h : Follows (fun _ => SamePosition) c d)
    (h' : Follows (fun _ => SamePosition) d e) : Follows (fun _ => SamePosition) c e :=
  h.trans (fun _ _ _ _ he he' => he.trans he') h'

/-- Errors at the same positions are further than each other alike, so the furthest of the errors
so far are at the same position too. -/
theorem choiceFrom {f g : γ → Consumer κ α} {xs : List γ}
    (h : ∀ x ∈ xs, Follows (fun _ => SamePosition) (f x) (g x)) (policy : ErrorPolicy)
    (ts : List (Token κ)) (p : Cursor) (index : Nat) {best other : Option ParseError}
    (hbest : Option.Rel SamePosition best other) :
    Leads (Step.EndsAlike SamePosition) (Consumer.choiceFrom policy ts p index best (xs.map f))
      (Consumer.choiceFrom policy ts p index other (xs.map g)) := by
  induction xs generalizing index best other with
  | nil => exact .ends ⟨rfl, .backtrack (samePosition_exhausted policy hbest ts p)⟩
  | cons x xs ih =>
    obtain ⟨hx, hxs⟩ := List.forall_mem_cons.1 h
    refine (hx ts p).bind ?_
    rintro ⟨o, q, log⟩ ⟨o', _, log'⟩ ⟨rfl, halike⟩
    cases halike with
    | ok value => exact .ends ⟨rfl, .ok value⟩
    | cut he => exact .ends ⟨rfl, .cut he⟩
    | backtrack he =>
      exact (ih hxs (index + 1) (.some (samePosition_furtherOf hbest he))).map fun s t hst => hst

theorem choice {f g : γ → Consumer κ α} {xs : List γ}
    (h : ∀ x ∈ xs, Follows (fun _ => SamePosition) (f x) (g x)) (policy : ErrorPolicy) :
    Follows (fun _ => SamePosition) (Consumer.choice policy (xs.map f))
      (Consumer.choice policy (xs.map g)) :=
  fun ts p => choiceFrom h policy ts p 0 .none

end Follows

/-- A name keeps the value, the kind of the failure and the place of the error. -/
theorem endsAlike_of_named {name : String} {c : Consumer κ α} {s : Step κ α}
    (hs : named name c ts p = some s) :
    ∃ t, c ts p = some t ∧ Step.EndsAlike SamePosition s t := by
  obtain ⟨t, ht, hcursor, hcases⟩ := named_cases hs
  refine ⟨t, ht, hcursor, ?_⟩
  obtain ⟨value, ho, ho'⟩ | ⟨e, ho, hentry, ho'⟩ | ⟨e, ho, -, ho'⟩ | ⟨e, ho, ho'⟩ := hcases
  · rw [ho, ho']
    exact .ok value
  · -- the other words are for an error at the same token
    have hposition : SamePosition (expected name ts p) e := (beq_iff_eq.1 hentry).symm
    rw [ho, ho']
    exact .backtrack hposition
  · rw [ho, ho']
    exact .backtrack rfl
  · rw [ho, ho']
    exact .cut rfl

theorem Follows.named_left {name : String} {c d : Consumer κ α}
    (h : Follows (fun _ => SamePosition) c d) :
    Follows (fun _ => SamePosition) (named name c) d := by
  have hname : Follows (fun _ => SamePosition) (named name c) c :=
    fun _ _ _ hs => endsAlike_of_named hs
  exact hname.trans_same h

theorem Follows.named_right {name : String} {c d : Consumer κ α}
    (h : Follows (fun _ => SamePosition) c d) :
    Follows (fun _ => SamePosition) c (named name d) := by
  have hname : Follows (fun _ => SamePosition) d (named name d) := by
    intro ts p t ht
    obtain ⟨s, hs⟩ : ∃ s, named name d ts p = some s := ⟨_, by rw [named, ht, Option.map_some]⟩
    obtain ⟨t', ht', hcursor, halike⟩ := endsAlike_of_named hs
    obtain rfl := Option.some.inj (ht.symm.trans ht')
    exact ⟨s, hs, hcursor.symm, halike.symm.imp fun _ _ he => he.symm⟩
  exact h.trans_same hname

end Consumer

/-! ## Rules with and without names -/

namespace Grammar

open Consumer (Follows)

variable {κ ν : Type} [DecidableEq κ] {g h : Grammar κ ν} {rule other : Rule κ ν}
  {ts : List (Token κ)} {p : Cursor} {s t : Step κ ν}

/-- Without its names a rule ends where it does with them. -/
theorem unnamed_follows (fuel : Nat) (rule : Rule κ ν) :
    Follows (fun _ => SamePosition) (g.run fuel rule) (g.unnamed.run fuel rule.unnamed) := by
  have hrefl : ∀ (_ : List (Token κ)) e, SamePosition e e := fun _ => SamePosition.refl
  induction fuel generalizing rule with
  | zero => exact .never _
  | succ fuel ih =>
    cases rule with
    | tokens kinds build => exact .refl hrefl _
    | sequence parts build =>
      rw [Rule.unnamed, Rule.unnamedAll_eq_map, run, run, List.map_map]
      exact .sequence hrefl build (.inOrder fun part _ => ih part)
    | choice alternatives =>
      rw [Rule.unnamed, Rule.unnamedAll_eq_map, run, run, List.map_map]
      exact .choice (fun alternative _ => ih alternative) g.policy
    | optional body wrap => exact .map wrap (.optional (ih body))
    | lookahead body => exact .lookahead (ih body)
    | list item delimiter wrap => exact .map wrap (.list (ih item) delimiter)
    | cut body => exact .cut (ih body)
    | label name body =>
      -- the fuel that the name has taken is left over
      have hmore : Follows (fun _ => SamePosition) (g.unnamed.run fuel body.unnamed)
          (g.unnamed.run (fuel + 1) body.unnamed) := .of_extends hrefl (run_extends_succ fuel _)
      exact ((ih body).trans_same hmore).named_left
    | map f body => exact .map f (ih body)
    | ref id =>
      rw [Rule.unnamed, run, run, definition?_unnamed]
      cases g.definition? id with
      | none => exact .refl hrefl _
      | some body => exact ih body
    | raw consume => exact .refl hrefl _

/-- With its names a rule ends where it does without them. A step of it takes as much more fuel as
there may be names in a row, and there are no more of them than there are rules. -/
theorem follows_unnamed {m n : Nat} (hm : n * g.size + rule.size ≤ m) :
    Follows (fun _ => SamePosition) (g.unnamed.run n rule.unnamed) (g.run m rule) := by
  have hrefl : ∀ (_ : List (Token κ)) e, SamePosition e e := fun _ => SamePosition.refl
  induction m generalizing n rule with
  | zero =>
    rw [Rule.size_eq_sizes_children] at hm
    omega
  | succ m ih =>
    cases n with
    | zero => exact .never _
    | succ n =>
      have hpart {part : Rule κ ν} (hmem : part ∈ g.parts rule) :
          Follows (fun _ => SamePosition) (g.unnamed.run n part.unnamed) (g.run m part) := by
        have hlt := size_lt_of_mem_parts hmem
        rw [Nat.succ_mul] at hm
        exact ih (by omega)
      cases rule with
      | tokens kinds build => exact .refl hrefl _
      | sequence parts build =>
        rw [Rule.unnamed, Rule.unnamedAll_eq_map, run, run, List.map_map]
        exact .sequence hrefl build (.inOrder fun part hmem => hpart hmem)
      | choice alternatives =>
        rw [Rule.unnamed, Rule.unnamedAll_eq_map, run, run, List.map_map]
        exact .choice (fun alternative hmem => hpart hmem) g.policy
      | optional body wrap => exact .map wrap (.optional (hpart (List.mem_singleton_self body)))
      | lookahead body => exact .lookahead (hpart (List.mem_singleton_self body))
      | list item delimiter wrap =>
        exact .map wrap (.list (hpart (List.mem_singleton_self item)) delimiter)
      | cut body => exact .cut (hpart (List.mem_singleton_self body))
      | label name body =>
        -- only the rule with names has taken a step
        rw [Rule.size] at hm
        exact (ih (Nat.le_of_succ_le_succ hm)).named_right
      | map f body => exact .map f (hpart (List.mem_singleton_self body))
      | ref id =>
        rw [Rule.unnamed, run, run, definition?_unnamed]
        cases hd : g.definition? id with
        | none => exact .refl hrefl _
        | some body => exact hpart (mem_parts_ref hd)
      | raw consume => exact .refl hrefl _

/-- Names make no difference to where a rule ends, and to its error no other than in words. -/
theorem ends_unnamed (hs : g.Ends ts (rule, p) s) :
    ∃ t, g.unnamed.Ends ts (rule.unnamed, p) t ∧ s.EndsAlike SamePosition t := by
  obtain ⟨fuel, hs⟩ := hs
  obtain ⟨t, ht, hst⟩ := unnamed_follows fuel rule ts p s hs
  exact ⟨t, ⟨fuel, ht⟩, hst⟩

theorem ends_of_unnamed (hs : g.unnamed.Ends ts (rule.unnamed, p) s) :
    ∃ t, g.Ends ts (rule, p) t ∧ s.EndsAlike SamePosition t := by
  obtain ⟨fuel, hs⟩ := hs
  obtain ⟨t, ht, hst⟩ := follows_unnamed (Nat.le_refl _) ts p s hs
  exact ⟨t, ⟨_, ht⟩, hst⟩

/-- From one choice of names to another one. -/
theorem exists_ends_of_unnamed_eq (hgrammar : g.unnamed = h.unnamed)
    (hrule : rule.unnamed = other.unnamed) (hs : g.Ends ts (rule, p) s) :
    ∃ t, h.Ends ts (other, p) t ∧ s.EndsAlike SamePosition t := by
  obtain ⟨u, hu, hcursor, halike⟩ := ends_unnamed hs
  rw [hgrammar, hrule] at hu
  obtain ⟨t, ht, hcursor', halike'⟩ := ends_of_unnamed hu
  exact ⟨t, ht, hcursor.trans hcursor', halike.trans (fun _ _ _ he he' => he.trans he') halike'⟩

/-- Two rules in two grammars that are the same but for names end from the same cursors. They end at
the same cursor, with the same value or with failures of the same kind at the same position. -/
theorem names_only_change_messages (hgrammar : g.unnamed = h.unnamed)
    (hrule : rule.unnamed = other.unnamed) (ts : List (Token κ)) (p : Cursor) :
    ((∃ s, g.Ends ts (rule, p) s) ↔ ∃ t, h.Ends ts (other, p) t) ∧
    ∀ s t, g.Ends ts (rule, p) s → h.Ends ts (other, p) t →
      s.cursor = t.cursor ∧
        Alike (fun e e' => e.position = e'.position) s.outcome t.outcome := by
  refine ⟨⟨?_, ?_⟩, fun s t hs ht => ?_⟩
  · rintro ⟨s, hs⟩
    obtain ⟨t, ht, -⟩ := exists_ends_of_unnamed_eq hgrammar hrule hs
    exact ⟨t, ht⟩
  · rintro ⟨t, ht⟩
    obtain ⟨s, hs, -⟩ := exists_ends_of_unnamed_eq hgrammar.symm hrule.symm ht
    exact ⟨s, hs⟩
  · obtain ⟨t', ht', hst⟩ := exists_ends_of_unnamed_eq hgrammar hrule hs
    obtain rfl := ht.unique ht'
    exact hst

/-- Two tokens that claim the same position: a name takes an error at the second for one at the
first, and so finds other words and another span for it, but no other position. -/
theorem names_only_change_messages_same_position :
    let mark : Char → Rule Char Nat := fun kind => .token kind fun _ => .ok 0
    let pair : Rule Char Nat := .sequence [mark 'a', .label "b" (mark 'b')] fun _ => .ok 1
    let g : Grammar Char Nat := ⟨[some (.choice [pair, mark 'c'])], .furthest⟩
    let h : Grammar Char Nat := ⟨[some (.choice [pair.named "pair", mark 'c'])], .furthest⟩
    let ts : List (Token Char) :=
      [⟨'a', "a", ⟨⟨0, 0⟩, ⟨0, 1⟩⟩, 0⟩, ⟨'x', "x", ⟨⟨0, 0⟩, ⟨0, 1⟩⟩, 1⟩]
    let e : ParseError := ⟨.expected "b" (some "x"), some ⟨0, 0⟩, some ⟨1, 1⟩⟩
    let e' : ParseError := ⟨.expected "pair" (some "a"), some ⟨0, 0⟩, some ⟨0, 1⟩⟩
    g.unnamed = h.unnamed ∧
      (∃ s, g.Ends ts (.ref 0, 0) s ∧ s.outcome = .error (.backtrack e)) ∧
      (∃ t, h.Ends ts (.ref 0, 0) t ∧ t.outcome = .error (.backtrack e')) ∧
      Alike (fun e e' => e.position = e'.position)
        (.error (.backtrack e) : Except Failure Nat) (.error (.backtrack e')) := by
  intro mark pair g h ts e e'
  have hgrammar : g.unnamed = h.unnamed := rfl
  have hs : ∃ s, g.Ends ts (.ref 0, 0) s ∧ s.outcome = .error (.backtrack e) :=
    ⟨_, ⟨5, rfl⟩, rfl⟩
  have ht : ∃ t, h.Ends ts (.ref 0, 0) t ∧ t.outcome = .error (.backtrack e') :=
    ⟨_, ⟨6, rfl⟩, rfl⟩
  refine ⟨hgrammar, hs, ht, ?_⟩
  obtain ⟨s, hs, ho⟩ := hs
  obtain ⟨t, ht, ho'⟩ := ht
  obtain ⟨-, hends⟩ := names_only_change_messages hgrammar rfl ts 0
  rw [← ho, ← ho']
  exact (hends s t hs ht).2

end Grammar

end Descent
