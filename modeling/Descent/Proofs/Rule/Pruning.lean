import Descent.Proofs.Rule.Calls

/-!
# Cuts only prune

A cut goes up through sequences, choices, lists, names and maps until the whole run has failed with
it, unless an option or a look ahead is in the way. So where there are none of these in the graph of
a rule, a run that does not fail with a cut has met no failure under a cut at all, and each of its
cuts might as well be missing: `Consumer.Prunes` says so of two consumers, with one lemma for each
combinator, and `Grammar.cuts_only_prune` of a rule and the same rule without its cuts. What becomes
of the runs that do fail with a cut is not said; without the cuts other alternatives are tried.

What a list makes of a failure behind a delimiter is a cut too, and it stays.
-/

namespace Descent

/-! ## Taking the cuts away -/

namespace Rule

variable {κ ν : Type}

mutual

/-- The rule with every cut replaced by the rule inside it. -/
def uncut : Rule κ ν → Rule κ ν
  | tokens kinds build => tokens kinds build
  | sequence parts build => sequence (uncutAll parts) build
  | choice alternatives => choice (uncutAll alternatives)
  | optional body wrap => optional body.uncut wrap
  | lookahead body => lookahead body.uncut
  | list item delimiter wrap => list item.uncut delimiter wrap
  | cut body => body.uncut
  | label name body => label name body.uncut
  | map f body => map f body.uncut
  | ref id => ref id
  | raw consume => raw consume

def uncutAll : List (Rule κ ν) → List (Rule κ ν)
  | [] => []
  | rule :: rest => rule.uncut :: uncutAll rest

end

theorem uncutAll_eq_map (rules : List (Rule κ ν)) : uncutAll rules = rules.map uncut := by
  induction rules with
  | nil => rfl
  | cons rule rest ih => rw [uncutAll, ih, List.map_cons]

end Rule

namespace Grammar

variable {κ ν : Type} {g : Grammar κ ν} {rule part leaf : Rule κ ν}

/-- The same grammar without any cuts in its rules. -/
def uncut (g : Grammar κ ν) : Grammar κ ν := ⟨g.definitions.map (Option.map Rule.uncut), g.policy⟩

theorem definition?_uncut (g : Grammar κ ν) (id : Nat) :
    g.uncut.definition? id = (g.definition? id).map Rule.uncut := by
  rw [definition?, uncut, List.getElem?_map, definition?]
  rcases g.definitions[id]? with _ | _ | _ <;> rfl

/-- Whether neither an option nor a look ahead stands in the graph of a rule. -/
def Unshielded (g : Grammar κ ν) (rule : Rule κ ν) : Prop :=
  ∀ leaf, g.Occurs rule leaf → leaf.shields = false

theorem Unshielded.of_mem (h : g.Unshielded rule) (hpart : part ∈ g.parts rule) :
    g.Unshielded part :=
  fun leaf hleaf => h leaf (.part hpart hleaf)

/-- A rule is unshielded if it is one of some rules that shield nothing and have all their parts
among them. -/
theorem unshielded_of_closed {rules : List (Rule κ ν)}
    (hrules : ∀ r ∈ rules, r.shields = false ∧ ∀ part ∈ g.parts r, part ∈ rules)
    (hrule : rule ∈ rules) : g.Unshielded rule := by
  intro leaf hleaf
  induction hleaf with
  | self rule => exact (hrules rule hrule).1
  | part hpart _ ih => exact ih ((hrules _ hrule).2 _ hpart)

end Grammar

/-! ## Runs that do not fail with a cut -/

section

variable {κ α β : Type}

/-- Whether a run has failed with a cut. -/
def Step.IsCut (s : Step κ α) : Prop := ∃ e, s.outcome = .error (.cut e)

theorem Step.not_isCut_of_ok {s : Step κ α} {v : α} (h : s.outcome = .ok v) : ¬s.IsCut := by
  rintro ⟨e, he⟩
  rw [h] at he
  cases he

/-- Whether a second run ends like a first one if that one ends without a cut. -/
def UnlessCut (x y : Option (Step κ α)) : Prop := ∀ s, x = some s → ¬s.IsCut → y = some s

namespace UnlessCut

variable {x y : Option (Step κ α)}

theorem refl (x : Option (Step κ α)) : UnlessCut x x := fun _ hs _ => hs

/-- A cut stays a cut whatever comes behind, and without one the two go on alike. -/
theorem bind {next next' : Step κ α → Option (Step κ β)} (h : UnlessCut x y)
    (hcut : ∀ t s, t.IsCut → next t = some s → s.IsCut)
    (hnext : ∀ t, ¬t.IsCut → UnlessCut (next t) (next' t)) :
    UnlessCut (x.bind next) (y.bind next') := by
  intro s hs hnot
  obtain ⟨t, ht, hs⟩ := Option.bind_eq_some_iff.1 hs
  have ht' : ¬t.IsCut := fun hcut' => hnot (hcut t s hcut' hs)
  exact Option.bind_eq_some_iff.2 ⟨t, h t ht ht', hnext t ht' s hs hnot⟩

theorem map {change : Step κ α → Step κ β} (h : UnlessCut x y)
    (hchange : ∀ t, t.IsCut → (change t).IsCut) :
    UnlessCut (x.map change) (y.map change) := by
  intro s hs hnot
  obtain ⟨t, ht, rfl⟩ := Option.map_eq_some_iff.1 hs
  exact Option.map_eq_some_iff.2 ⟨t, h t ht (mt (hchange t) hnot), rfl⟩

end UnlessCut

end

namespace Consumer

variable {κ α β γ : Type}

/-- Whether a second consumer ends like a first one wherever that one ends without a cut. -/
def Prunes (c d : Consumer κ α) : Prop := ∀ ts p, UnlessCut (c ts p) (d ts p)

namespace Prunes

variable {c d e : Consumer κ α} {f g : γ → Consumer κ α} {xs : List γ}

theorem refl (c : Consumer κ α) : Prunes c c := fun ts p => .refl (c ts p)

theorem never (d : Consumer κ α) : Prunes (fun _ _ => none) d := fun _ _ _ hs => nomatch hs

theorem extends_right (h : Prunes c d) (hextends : Extends d e) : Prunes c e :=
  fun ts p s hs hnot => hextends ts p s (h ts p s hs hnot)

theorem inOrder (h : ∀ x ∈ xs, Prunes (f x) (g x)) :
    Prunes (Consumer.inOrder (xs.map f)) (Consumer.inOrder (xs.map g)) := by
  induction xs with
  | nil => exact refl _
  | cons x xs ih =>
    obtain ⟨hx, hxs⟩ := List.forall_mem_cons.1 h
    intro ts p
    refine (hx ts p).bind ?_ ?_
    · rintro t s ⟨e, he⟩ hs
      simp only [he, Option.some.injEq] at hs
      exact ⟨e, hs ▸ rfl⟩
    · intro t _
      cases t.outcome with
      | error failure => exact .refl _
      | ok v =>
        refine (ih hxs ts t.cursor).map ?_
        rintro u ⟨e, he⟩
        exact ⟨e, by simp only [he, Except.map]⟩

theorem sequence {parts others : List (Consumer κ α)} (build : List α → Except String β)
    (h : Prunes (Consumer.inOrder parts) (Consumer.inOrder others)) :
    Prunes (Consumer.sequence parts build) (Consumer.sequence others build) := by
  intro ts p
  refine (h ts p).map ?_
  rintro t ⟨e, he⟩
  simp only [he]
  exact ⟨e, rfl⟩

theorem choiceFrom (h : ∀ x ∈ xs, Prunes (f x) (g x)) (policy : ErrorPolicy) (ts : List (Token κ))
    (p : Cursor) (index : Nat) (best : Option ParseError) :
    UnlessCut (Consumer.choiceFrom policy ts p index best (xs.map f))
      (Consumer.choiceFrom policy ts p index best (xs.map g)) := by
  induction xs generalizing index best with
  | nil => exact .refl _
  | cons x xs ih =>
    obtain ⟨hx, hxs⟩ := List.forall_mem_cons.1 h
    refine (hx ts p).bind ?_ ?_
    · rintro t s ⟨e, he⟩ hs
      simp only [he, Option.some.injEq] at hs
      exact ⟨e, hs ▸ rfl⟩
    · intro t _
      cases t.outcome with
      | ok v => exact .refl _
      | error failure =>
        cases failure with
        | cut e => exact .refl _
        | backtrack e => exact (ih hxs (index + 1) (some (furtherOf best e))).map fun _ hu => hu

theorem choice (h : ∀ x ∈ xs, Prunes (f x) (g x)) (policy : ErrorPolicy) :
    Prunes (Consumer.choice policy (xs.map f)) (Consumer.choice policy (xs.map g)) :=
  fun ts p => choiceFrom h policy ts p 0 none

/-- A cut that does not fail with a cut has not failed. -/
theorem cut_left (h : Prunes c d) : Prunes (Consumer.cut c) d := by
  intro ts p s hs hnot
  obtain ⟨⟨o, q, log⟩, ht, rfl⟩ := Option.map_eq_some_iff.1 hs
  cases o with
  | ok v => exact h ts p _ ht (Step.not_isCut_of_ok rfl)
  | error failure => cases failure <;> exact absurd ⟨_, rfl⟩ hnot

theorem named (name : String) (h : Prunes c d) :
    Prunes (Consumer.named name c) (Consumer.named name d) := by
  intro ts p
  refine (h ts p).map ?_
  rintro t ⟨e, he⟩
  simp only [he]
  exact ⟨e, he⟩

theorem map (convert : α → β) (h : Prunes c d) :
    Prunes (Consumer.map convert c) (Consumer.map convert d) := by
  intro ts p
  refine (h ts p).map ?_
  rintro t ⟨e, he⟩
  exact ⟨e, by simp only [he, Except.map]⟩

variable [DecidableEq κ]

/-- Behind a delimiter every failure is a cut, so only the first item can fail otherwise. -/
theorem itemsFrom (h : Prunes c d) (delimiter : κ) (ts : List (Token κ)) (fuel count : Nat)
    (p : Cursor) : UnlessCut (Consumer.itemsFrom c delimiter ts fuel count p)
      (Consumer.itemsFrom d delimiter ts fuel count p) := by
  induction fuel generalizing count p with
  | zero => exact .refl _
  | succ fuel ih =>
    refine (h ts p).bind ?_ ?_
    -- a cut of the item is one of the list, behind a delimiter or not
    · rintro t s ⟨e, he⟩ hs
      simp only [he] at hs
      split at hs
      · obtain rfl := Option.some.inj hs
        exact ⟨e, rfl⟩
      · obtain rfl := Option.some.inj hs
        exact ⟨e, rfl⟩
    · intro t _
      cases t.outcome with
      | error failure => exact .refl _
      | ok v =>
        by_cases hd : ((ts[t.cursor]?).any fun token => token.kind = delimiter) = true
        · simp only [if_pos hd]
          refine (ih (count + 1) (t.cursor.advance 1)).map ?_
          rintro u ⟨e, he⟩
          exact ⟨e, by simp only [he, Except.map]⟩
        · simp only [if_neg hd]
          exact .refl _

theorem list (h : Prunes c d) (delimiter : κ) :
    Prunes (Consumer.list c delimiter) (Consumer.list d delimiter) := by
  intro ts p
  refine (itemsFrom h delimiter ts (ts.length + 1) 0 p).map ?_
  rintro t ⟨e, he⟩
  simp only [he]
  exact ⟨e, rfl⟩

end Prunes

end Consumer

/-! ## Rules with and without cuts -/

namespace Grammar

open Consumer (Prunes)

variable {κ ν : Type} [DecidableEq κ] {g : Grammar κ ν} {rule : Rule κ ν} {ts : List (Token κ)}
  {p : Cursor} {s t : Step κ ν}

theorem uncut_prunes (fuel : Nat) (hrule : g.Unshielded rule) :
    Prunes (g.run fuel rule) (g.uncut.run fuel rule.uncut) := by
  induction fuel generalizing rule with
  | zero => exact .never _
  | succ fuel ih =>
    have hpart {part : Rule κ ν} (hmem : part ∈ g.parts rule) :
        Prunes (g.run fuel part) (g.uncut.run fuel part.uncut) := ih (hrule.of_mem hmem)
    cases rule with
    | tokens kinds build => exact .refl _
    | sequence parts build =>
      rw [Rule.uncut, Rule.uncutAll_eq_map, run, run, List.map_map]
      exact .sequence build (.inOrder fun part hmem => hpart hmem)
    | choice alternatives =>
      rw [Rule.uncut, Rule.uncutAll_eq_map, run, run, List.map_map]
      exact .choice (fun alternative hmem => hpart hmem) g.policy
    | optional body wrap => cases hrule _ (.self _)
    | lookahead body => cases hrule _ (.self _)
    | list item delimiter wrap =>
      exact .map wrap (.list (hpart (List.mem_singleton_self item)) delimiter)
    | cut body =>
      -- the fuel that the cut has taken is left over
      have hbody := hpart (List.mem_singleton_self body)
      exact (hbody.extends_right (run_extends_succ fuel body.uncut)).cut_left
    | label name body => exact .named name (hpart (List.mem_singleton_self body))
    | map f body => exact .map f (hpart (List.mem_singleton_self body))
    | ref id =>
      rw [Rule.uncut, run, run, definition?_uncut]
      cases hd : g.definition? id with
      | none => exact .refl _
      | some body => exact hpart (mem_parts_ref hd)
    | raw consume => exact .refl _

/-- Without its cuts a rule ends as it does with them, unless that is with a cut. -/
theorem ends_uncut (hrule : g.Unshielded rule) (hs : g.Ends ts (rule, p) s) (hnot : ¬s.IsCut) :
    g.uncut.Ends ts (rule.uncut, p) s := by
  obtain ⟨fuel, hs⟩ := hs
  exact ⟨fuel, uncut_prunes fuel hrule ts p s hs hnot⟩

/-- A rule with neither options nor looking ahead in its graph fails with a cut, or ends as it does
with every cut in the graph replaced by the rule inside it: with the same value or the same failure
and at the same cursor. So cuts make it accept nothing more and no other value, and what it rejects
without them it rejects with them. -/
theorem cuts_only_prune (hrule : g.Unshielded rule) (hs : g.Ends ts (rule, p) s) :
    (¬s.IsCut → g.uncut.Ends ts (rule.uncut, p) s) ∧
      ∀ t, g.uncut.Ends ts (rule.uncut, p) t →
        (s.IsCut ∨ s.outcome = t.outcome ∧ s.cursor = t.cursor) ∧
          (∀ v, s.outcome = .ok v → t.outcome = .ok v ∧ t.cursor = s.cursor) ∧
            ∀ failure, t.outcome = .error failure → ∃ failure', s.outcome = .error failure' := by
  refine ⟨ends_uncut hrule hs, fun t ht => ?_⟩
  have hsame (hnot : ¬s.IsCut) : s = t := (ends_uncut hrule hs hnot).unique ht
  refine ⟨?_, fun v hv => ?_, fun failure hf => ?_⟩
  · by_cases hcut : s.IsCut
    · exact Or.inl hcut
    · exact Or.inr ⟨by rw [hsame hcut], by rw [hsame hcut]⟩
  · rw [← hsame (Step.not_isCut_of_ok hv)]
    exact ⟨hv, rfl⟩
  · cases ho : s.outcome with
    | error failure' => exact ⟨failure', rfl⟩
    | ok v =>
      rw [hsame (Step.not_isCut_of_ok ho), hf] at ho
      cases ho

/-- A rule that must go on with itself behind an `a`: where it does, the cut makes no difference,
and where it does not, the rule fails with a cut and would match without. -/
theorem cuts_only_prune_again :
    let mark : Char → Rule Char Nat := fun kind => .token kind fun t => .ok t.offset
    let last : List Nat → Except String Nat := fun vs => .ok (vs.getLastD 0)
    let again (rest : Rule Char Nat) : Rule Char Nat :=
      .choice [.sequence [mark 'a', rest] last, .sequence [mark 'a', mark 'c'] last, mark 'b']
    let g : Grammar Char Nat := ⟨[some (again (.cut (.ref 0)))], .furthest⟩
    let tokens (kinds : List Char) : List (Token Char) := kinds.zipIdx.map fun (kind, i) =>
      ⟨kind, kind.toString, ⟨⟨0, i⟩, ⟨0, i + 1⟩⟩, i⟩
    g.Unshielded (.ref 0) ∧
      (∃ s, g.Ends (tokens ['a', 'a', 'b']) (.ref 0, 0) s ∧ ¬s.IsCut ∧ s.outcome = .ok 2 ∧
        g.uncut.Ends (tokens ['a', 'a', 'b']) (.ref 0, 0) s) ∧
      ∃ s t, g.Ends (tokens ['a', 'c']) (.ref 0, 0) s ∧ s.IsCut ∧
        g.uncut.Ends (tokens ['a', 'c']) (.ref 0, 0) t ∧ t.outcome = .ok 1 := by
  intro mark last again g tokens
  have hbare : g.Unshielded (.ref 0) := by
    let rules : List (Rule Char Nat) := [.ref 0, again (.cut (.ref 0)),
      .sequence [mark 'a', .cut (.ref 0)] last, .sequence [mark 'a', mark 'c'] last, .cut (.ref 0),
      mark 'a', mark 'b', mark 'c']
    have hrules : ∀ r ∈ rules, r.shields = false ∧ ∀ part ∈ g.parts r, part ∈ rules := by
      simp [rules, again, mark, Rule.token, Rule.shields, parts, g, definition?]
    exact unshielded_of_closed hrules List.mem_cons_self
  have hs : ∃ s, g.Ends (tokens ['a', 'a', 'b']) (.ref 0, 0) s ∧ s.outcome = .ok 2 :=
    ⟨_, ⟨12, rfl⟩, rfl⟩
  obtain ⟨s, hs, ho⟩ := hs
  have hnot : ¬s.IsCut := Step.not_isCut_of_ok ho
  obtain ⟨hends, -⟩ := cuts_only_prune hbare hs
  exact ⟨hbare, ⟨s, hs, hnot, ho, hends hnot⟩, _, _, ⟨8, rfl⟩, ⟨_, rfl⟩, ⟨7, rfl⟩, rfl⟩

/-- In an option a cut does more than that: what is under it is absent, where without it the next
alternative would have matched. -/
example :
    let mark : Char → Rule Char Nat := fun kind => .token kind fun _ => .ok 1
    let rule : Rule Char Nat := .optional (.choice [.cut (mark 'a'), mark 'b']) (·.getD 0)
    let g : Grammar Char Nat := ⟨[], .furthest⟩
    let ts : List (Token Char) := [⟨'b', "b", ⟨⟨0, 0⟩, ⟨0, 1⟩⟩, 0⟩]
    g.EndsWith ts (rule, 0) (.ok 0) 0 ∧ g.uncut.EndsWith ts (rule.uncut, 0) (.ok 1) 1 :=
  ⟨⟨_, ⟨4, rfl⟩, rfl, rfl⟩, ⟨_, ⟨3, rfl⟩, rfl, rfl⟩⟩

end Grammar

end Descent
