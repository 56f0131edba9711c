import Descent.Proofs.Rule.Failure

/-!
# Where cuts come from and where they go

A cut is raised at three places only: where the operand of an explicit cut fails, where an item
fails behind a delimiter, and where a reference leads nowhere. From there it goes up through
everything but an option and a looking ahead, and its error stays as it is.

So consider the calls of a run that no option and no looking ahead encloses (`Grammar.Exposed`). If
one of them ends with a cut, then so does the run, with the same error (`cut_of_exposed`); and if
the run ends with a cut, then one of them has failed with that error at one of the three places
(`exists_committed`). `Grammar.cuts_conserved` has both.
-/

namespace Descent.Grammar

variable {κ ν : Type} [DecidableEq κ] {g : Grammar κ ν} {ts : List (Token κ)} {rule : Rule κ ν}
  {p : Cursor} {c d : Call κ ν} {e : ParseError}

/-- A call by a rule that does not keep cuts to itself. -/
def Exposes (g : Grammar κ ν) (ts : List (Token κ)) (c d : Call κ ν) : Prop :=
  c.1.shields = false ∧ g.Calls ts c d

/-- Whether a call is part of a run, or the run itself, and no option and no looking ahead of the
run encloses it. -/
def Exposed (g : Grammar κ ν) (ts : List (Token κ)) : Call κ ν → Call κ ν → Prop :=
  Relation.ReflTransGen (g.Exposes ts)

/-- The exposed calls of a run whose failure is a cut because of the place where they stand. -/
inductive Committed (g : Grammar κ ν) (ts : List (Token κ)) (root : Call κ ν) : Call κ ν → Prop
  /-- In an explicit cut. -/
  | operand {body : Rule κ ν} {q : Cursor} :
    g.Exposed ts root (.cut body, q) → Committed g ts root (body, q)
  /-- In a list, behind one item or more. -/
  | item {item : Rule κ ν} {delimiter : κ} {wrap : List ν → ν} {m : Nat} {q r : Cursor} :
    g.Exposed ts root (.list item delimiter wrap, q) → g.Rounds ts item delimiter (m + 1) q r →
      Committed g ts root (item, r)
  /-- A reference that leads nowhere. -/
  | undefined {id : Nat} {q : Cursor} :
    g.Exposed ts root (.ref id, q) → g.definition? id = none → Committed g ts root (.ref id, q)

theorem calls_of_exposed (h : g.Exposed ts c d) : Relation.ReflTransGen (g.Calls ts) c d :=
  Relation.ReflTransGen.mono (fun _ _ hexposes => hexposes.2) _ _ h

theorem Committed.of_exposes (hexposes : g.Exposes ts c d) {leaf : Call κ ν}
    (h : g.Committed ts d leaf) : g.Committed ts c leaf := by
  cases h with
  | operand hexposed => exact .operand (.head hexposes hexposed)
  | item hexposed hrounds => exact .item (.head hexposes hexposed) hrounds
  | undefined hexposed hd => exact .undefined (.head hexposes hexposed) hd

theorem Committed.exposed (h : g.Committed ts c d) : g.Exposed ts c d := by
  cases h with
  | operand hexposed => exact .tail hexposed ⟨rfl, .cut _ _⟩
  | item hexposed hrounds => exact .tail hexposed ⟨rfl, .item _ hrounds⟩
  | undefined hexposed _ => exact hexposed

/-- A cut of an exposed call is the end of the whole run. -/
theorem cut_of_exposed (h : g.Exposed ts c d) {s t : Step κ ν} (hs : g.Ends ts c s)
    (ht : g.Ends ts d t) (hcut : t.outcome = .error (.cut e)) : s.outcome = .error (.cut e) := by
  induction h using Relation.ReflTransGen.head_induction_on generalizing s with
  | refl => rwa [hs.unique ht]
  | head hexposes _ ih =>
    -- one call further up, the same cut
    obtain ⟨hshields, hcall⟩ := hexposes
    obtain ⟨fuel, hs⟩ := hs
    obtain ⟨u, hu, hup⟩ := hcall.exists_run (run_mono (Nat.le_succ fuel) hs)
    exact hup hshields e (ih ⟨fuel, hu⟩)

/-- A run that ends with a cut has it from an exposed call at one of the three places. -/
theorem exists_committed (hrule : g.Composed c.1) {s : Step κ ν} (hs : g.Ends ts c s)
    (hcut : s.outcome = .error (.cut e)) :
    ∃ d t failure, g.Committed ts c d ∧ g.Ends ts d t ∧ t.outcome = .error failure ∧
      failure.error = e := by
  obtain ⟨fuel, hs⟩ := hs
  induction fuel generalizing c s with
  | zero => nomatch hs
  | succ n ih =>
    obtain ⟨rule, p⟩ := c
    -- a failure of its own and one that a lookahead has demoted are no cuts
    generalize hfailure : Failure.cut e = failure at hcut
    cases failsBy_of_run hrule.ne_raw hs hcut with
    | own _ => nomatch hfailure
    | demoted _ _ => nomatch hfailure
    | undefined hd _ =>
      obtain rfl := Failure.cut.inj hfailure
      exact ⟨_, s, _, .undefined .refl hd, ⟨n + 1, hs⟩, hcut, rfl⟩
    | passed hshields hcall ht hf =>
      subst hfailure
      obtain ⟨d, u, failure, hcommitted, hu⟩ := ih (hrule.of_mem hcall.mem_parts) hf ht
      exact ⟨d, u, failure, hcommitted.of_exposes ⟨hshields, hcall⟩, hu⟩
    | operand ht hf =>
      obtain rfl := Failure.cut.inj hfailure
      exact ⟨_, _, _, .operand .refl, ⟨n, ht⟩, hf, rfl⟩
    | item wrap hrounds ht hf =>
      obtain rfl := Failure.cut.inj hfailure
      exact ⟨_, _, _, .item .refl hrounds, ⟨n, ht⟩, hf, rfl⟩

/-- Whether a rule may make cuts: an explicit cut, a list, or a reference that leads nowhere. -/
inductive MakesCuts (g : Grammar κ ν) : Rule κ ν → Prop
  | cut (body : Rule κ ν) : MakesCuts g (.cut body)
  | list (item : Rule κ ν) (delimiter : κ) (wrap : List ν → ν) :
    MakesCuts g (.list item delimiter wrap)
  | undefined {id : Nat} : g.definition? id = none → MakesCuts g (.ref id)

theorem Committed.exists_makesCuts (h : g.Committed ts c d) :
    ∃ leaf, g.Occurs c.1 leaf ∧ g.MakesCuts leaf := by
  cases h with
  | operand hexposed => exact ⟨_, occurs_of_calls (calls_of_exposed hexposed), .cut _⟩
  | item hexposed _ => exact ⟨_, occurs_of_calls (calls_of_exposed hexposed), .list _ _ _⟩
  | undefined hexposed hd => exact ⟨_, occurs_of_calls (calls_of_exposed hexposed), .undefined hd⟩

/-- In a run of a composed rule that ends, a cut of an exposed call is the end of the run, with the
same error. A cut at the end of the run is the failure of an exposed call that is the operand of an
explicit cut, an item behind another one or a reference that leads nowhere, with its error
unchanged. Without such rules no run ends with a cut. -/
theorem cuts_conserved (hrule : g.Composed rule) {s : Step κ ν} (hs : g.Ends ts (rule, p) s) :
    (∀ d t e, g.Exposed ts (rule, p) d → g.Ends ts d t → t.outcome = .error (.cut e) →
      s.outcome = .error (.cut e)) ∧
    (∀ e, s.outcome = .error (.cut e) →
      ∃ d t failure, g.Exposed ts (rule, p) d ∧ g.Committed ts (rule, p) d ∧ g.Ends ts d t ∧
        t.outcome = .error failure ∧ failure.error = e) ∧
    ((∀ leaf, g.Occurs rule leaf → ¬g.MakesCuts leaf) → ∀ e, s.outcome ≠ .error (.cut e)) := by
  refine ⟨fun d t e h ht hcut => cut_of_exposed h hs ht hcut, fun e hcut => ?_,
    fun hnone e hcut => ?_⟩
  · obtain ⟨d, t, failure, hcommitted, ht⟩ := exists_committed hrule hs hcut
    exact ⟨d, t, failure, hcommitted.exposed, hcommitted, ht⟩
  · obtain ⟨d, t, failure, hcommitted, -⟩ := exists_committed hrule hs hcut
    obtain ⟨leaf, hoccurs, hmakes⟩ := hcommitted.exists_makesCuts
    exact hnone leaf hoccurs hmakes

/-- A bracket, an item and a delimiter, and then no item but a bracket: the complaint about it goes
up through a list, a name, a reference and a sequence, and the choice does not go on. -/
theorem cuts_conserved_dangling :
    let mark : Char → Rule Char Nat := fun kind => .token kind fun _ => .ok 0
    let rule : Rule Char Nat :=
      .choice [.sequence [mark '[', .ref 0, mark ']'] fun _ => .ok 0,
        .optional (.cut (mark 'x')) fun _ => 1]
    let g : Grammar Char Nat :=
      ⟨[some (.label "items" (.list (mark 'n') ',' fun _ => 0))], .furthest⟩
    let ts : List (Token Char) := ['[', 'n', ',', ']'].zipIdx.map fun (kind, i) =>
      ⟨kind, kind.toString, ⟨⟨0, i⟩, ⟨0, i + 1⟩⟩, i⟩
    let e : ParseError := ⟨.unmatched "]", some ⟨0, 3⟩, some ⟨3, 1⟩⟩
    g.Composed rule ∧ ∃ s, g.Ends ts (rule, 0) s ∧ s.outcome = .error (.cut e) ∧
      ∃ d t failure, g.Exposed ts (rule, 0) d ∧ g.Committed ts (rule, 0) d ∧ g.Ends ts d t ∧
        t.outcome = .error failure ∧ failure.error = e := by
  intro mark rule g ts e
  have hrule : g.Composed rule := composed_of_isPlain rfl rfl
  have hrun : (g.run 7 rule ts 0).map (·.outcome) = some (.error (.cut e)) := by decide
  obtain ⟨s, hs, hcut⟩ := Option.map_eq_some_iff.1 hrun
  have hends : g.Ends ts (rule, 0) s := ⟨7, hs⟩
  obtain ⟨-, hcommitted, -⟩ := cuts_conserved hrule hends
  exact ⟨hrule, s, hends, hcut, hcommitted e hcut⟩

end Descent.Grammar
