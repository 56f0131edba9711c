import Mathlib.Data.List.ProdSigma
import Mathlib.Data.List.Perm.Subperm
import Descent.Proofs.Rule.Calls

/-!
# Runs that come round

A run that does not end comes round: some rule in it is run from some cursor and, before it has
ended, is run from the same cursor again (`Grammar.ComesRound`). Nothing else keeps a run from
ending. A rule is made of finitely many others, and calls do not lead behind the last token, so
there are only so many calls that can wait for one another before one of them waits for itself.

The fuel of `Grammar.consume` is a count of these calls, and so it is always enough:
`consume_eq_some_iff` says that a composed rule is answered whenever any amount of fuel answers it,
and `exists_consume_iff` that it is answered exactly if its run does not come round.
-/

namespace Descent

/-! ## The rules of a graph -/

namespace Rule

variable {κ ν : Type}

/-- The rules written down in a rule, one level deep. -/
def children : Rule κ ν → List (Rule κ ν)
  | tokens _ _ | ref _ | raw _ => []
  | sequence parts _ => parts
  | choice alternatives => alternatives
  | optional body _ | lookahead body | list body _ _ | cut body | label _ body | map _ body =>
    [body]

theorem size_eq_sizes_children (rule : Rule κ ν) : rule.size = sizes rule.children + 1 := by
  cases rule <;> simp only [size, sizes, children, Nat.add_zero]

theorem sizes_append (rules others : List (Rule κ ν)) :
    sizes (rules ++ others) = sizes rules + sizes others := by
  induction rules with
  | nil => rw [List.nil_append, sizes, Nat.zero_add]
  | cons rule rest ih => rw [List.cons_append, sizes, sizes, ih, Nat.add_assoc]

/-- The rules written down in some rules, at whatever depth, are as many as these are made of. -/
theorem exists_subrules {n : Nat} (rules : List (Rule κ ν)) (hn : sizes rules ≤ n) :
    ∃ nodes : List (Rule κ ν), nodes.length = sizes rules ∧ rules ⊆ nodes ∧
      ∀ node ∈ nodes, node.children ⊆ nodes := by
  induction n generalizing rules with
  | zero =>
    cases rules with
    | nil => exact ⟨[], rfl, List.Subset.refl _, nofun⟩
    | cons rule rest =>
      rw [sizes, size_eq_sizes_children] at hn
      omega
  | succ n ih =>
    cases rules with
    | nil => exact ⟨[], rfl, List.Subset.refl _, nofun⟩
    | cons rule rest =>
      -- the first rule is done, and what is written down in it is left to do
      have hsizes : sizes (rule :: rest) = sizes (rule.children ++ rest) + 1 := by
        rw [sizes, size_eq_sizes_children, sizes_append]
        omega
      obtain ⟨nodes, hlength, hrules, hclosed⟩ := ih (rule.children ++ rest) (by omega)
      obtain ⟨hchildren, hrest⟩ := List.append_subset.1 hrules
      refine ⟨rule :: nodes, by rw [List.length_cons, hlength, hsizes], ?_, ?_⟩
      · exact List.cons_subset_cons rule hrest
      · refine List.forall_mem_cons.2 ⟨List.subset_cons_of_subset rule hchildren, ?_⟩
        intro node hnode
        exact List.subset_cons_of_subset rule (hclosed node hnode)

end Rule

namespace Grammar

variable {κ ν : Type} {g : Grammar κ ν} {rule : Rule κ ν}

theorem mem_children_or_definition {part : Rule κ ν} (h : part ∈ g.parts rule) :
    part ∈ rule.children ∨ part ∈ g.definitions.filterMap id := by
  cases rule with
  | ref id =>
    have hd : g.definition? id = some part := Option.mem_toList.1 h
    have hentry : g.definitions[id]? = some (some part) := Option.join_eq_some_iff.1 hd
    exact Or.inr (List.mem_filterMap.2 ⟨some part, List.mem_of_getElem? hentry, rfl⟩)
  | _ => exact Or.inl h

/-- A graph has no more rules than its rule and the definitions are made of. -/
theorem exists_nodes (g : Grammar κ ν) (rule : Rule κ ν) :
    ∃ nodes : List (Rule κ ν), nodes.length = g.size + rule.size ∧
      ∀ node, g.Occurs rule node → node ∈ nodes := by
  obtain ⟨nodes, hlength, hrules, hclosed⟩ :=
    Rule.exists_subrules (rule :: g.definitions.filterMap id) (Nat.le_refl _)
  obtain ⟨hrule, hdefinitions⟩ := List.cons_subset.1 hrules
  refine ⟨nodes, by rw [hlength, Rule.sizes, size, Nat.add_comm], fun node hoccurs => ?_⟩
  clear hlength hrules
  -- along the edges: what is written down is in the list, and so are the definitions
  induction hoccurs with
  | self _ => exact hrule
  | part hpart _ ih =>
    refine ih ?_
    obtain hchild | hdefinition := mem_children_or_definition hpart
    · exact hclosed _ hrule hchild
    · exact hdefinitions hdefinition

/-! ## Calls that wait for one another -/

variable [DecidableEq κ] {ts : List (Token κ)} {p : Cursor} {c d : Call κ ν}

/-- All calls that a run can make, as many as there is fuel but for one. -/
theorem exists_calls (hrule : g.Composed rule) (ts : List (Token κ)) (p : Cursor) :
    ∃ calls : List (Call κ ν), calls.length < g.fuelFor rule ts ∧
      ∀ d, Relation.ReflTransGen (g.Calls ts) (rule, p) d → d ∈ calls := by
  obtain ⟨nodes, hlength, hnodes⟩ := g.exists_nodes rule
  let cursors : List Cursor := p :: List.range (ts.length + 1)
  refine ⟨nodes ×ˢ cursors, ?_, fun d hcalls => ?_⟩
  · rw [List.length_product, hlength, List.length_cons, List.length_range, fuelFor, Nat.mul_comm]
    exact Nat.lt_succ_self _
  · have hbounds := bounds_of_calls hcalls hrule
    refine List.mem_product.2 ⟨hnodes _ (occurs_of_calls hcalls), ?_⟩
    rw [List.mem_cons, List.mem_range]
    grind

/-- Whether a run comes round: some call in it waits for itself. -/
def ComesRound (g : Grammar κ ν) (ts : List (Token κ)) (c : Call κ ν) : Prop :=
  ∃ d, Relation.ReflTransGen (g.Calls ts) c d ∧ Relation.TransGen (g.Calls ts) d d

theorem ComesRound.of_call (hcall : g.Calls ts c d) (h : g.ComesRound ts d) :
    g.ComesRound ts c := by
  obtain ⟨d', hcalls, hround⟩ := h
  exact ⟨d', .head hcall hcalls, hround⟩

/-- What does not come round ends, with as much fuel as there are calls that do not wait yet. -/
theorem exists_run_of_waiting {calls waiting : List (Call κ ν)} {n : Nat}
    (hn : calls.length < waiting.length + n) (hnodup : waiting.Nodup) (hsubset : waiting ⊆ calls)
    (hwaiting : ∀ w ∈ waiting, Relation.TransGen (g.Calls ts) w c) (hrule : g.Composed c.1)
    (hcalls : ∀ d, Relation.ReflTransGen (g.Calls ts) c d → d ∈ calls)
    (hround : ¬g.ComesRound ts c) : ∃ s, g.run n c.1 ts c.2 = some s := by
  induction n generalizing c waiting with
  | zero =>
    have hle : waiting.length ≤ calls.length := (hnodup.subperm hsubset).length_le
    omega
  | succ n ih =>
    refine exists_run_succ hrule fun d hcall => ?_
    -- the caller waits now as well, and has not done so before
    have hnew : c ∉ waiting := fun h => hround ⟨c, .refl, hwaiting c h⟩
    have hlength : calls.length < (c :: waiting).length + n := by
      rw [List.length_cons]
      omega
    refine ih hlength (List.nodup_cons.2 ⟨hnew, hnodup⟩)
      (List.cons_subset.2 ⟨hcalls c .refl, hsubset⟩) ?_ (hrule.of_mem hcall.mem_parts)
      (fun d' hd' => hcalls d' (.head hcall hd')) (mt (ComesRound.of_call hcall) hround)
    exact List.forall_mem_cons.2 ⟨.single hcall, fun w hw => (hwaiting w hw).tail hcall⟩

theorem Calls.exists_run_lt (hcall : g.Calls ts c d) {n : Nat} {s : Step κ ν}
    (hs : g.run n c.1 ts c.2 = some s) : ∃ m t, m < n ∧ g.run m d.1 ts d.2 = some t := by
  cases n with
  | zero => nomatch hs
  | succ n =>
    obtain ⟨t, ht, -⟩ := hcall.exists_run hs
    exact ⟨n, t, Nat.lt_succ_self n, ht⟩

theorem exists_run_lt_of_calls (h : Relation.TransGen (g.Calls ts) c d) {n : Nat} {s : Step κ ν}
    (hs : g.run n c.1 ts c.2 = some s) : ∃ m t, m < n ∧ g.run m d.1 ts d.2 = some t := by
  induction h with
  | single hcall => exact hcall.exists_run_lt hs
  | tail _ hcall ih =>
    obtain ⟨m, t, hm, ht⟩ := ih
    obtain ⟨m', t', hm', ht'⟩ := hcall.exists_run_lt ht
    exact ⟨m', t', Nat.lt_trans hm' hm, ht'⟩

/-- What ends does not wait for itself. -/
theorem not_calls_self_of_run {n : Nat} {s : Step κ ν} (hs : g.run n c.1 ts c.2 = some s) :
    ¬Relation.TransGen (g.Calls ts) c c := by
  intro hround
  -- it would have ended with less and less fuel
  induction n using Nat.strongRecOn generalizing s with
  | ind n ih =>
    obtain ⟨m, t, hm, ht⟩ := exists_run_lt_of_calls hround hs
    exact ih m hm ht

/-- A run that ends does not come round. -/
theorem Ends.not_comesRound {s : Step κ ν} (hs : g.Ends ts c s) : ¬g.ComesRound ts c := by
  rintro ⟨d, hcalls, hround⟩
  obtain ⟨t, fuel, ht⟩ := exists_ends_of_calls hcalls hs
  exact not_calls_self_of_run ht hround

/-! ## The fuel of a run -/

/-- The run of a composed rule ends exactly if it does not come round. -/
theorem exists_consume_iff (hrule : g.Composed rule) :
    (∃ s, g.consume rule ts p = some s) ↔ ¬g.ComesRound ts (rule, p) := by
  constructor
  · rintro ⟨s, hs⟩
    have hends : g.Ends ts (rule, p) s := ⟨_, hs⟩
    exact hends.not_comesRound
  · intro hround
    obtain ⟨calls, hlength, hcalls⟩ := exists_calls hrule ts p
    have hfuel : calls.length < ([] : List (Call κ ν)).length + g.fuelFor rule ts := by
      rwa [List.length_nil, Nat.zero_add]
    -- nobody waits yet
    exact exists_run_of_waiting (c := (rule, p)) hfuel List.nodup_nil (List.nil_subset calls) nofun
      hrule hcalls hround

-- A sequence that begins with itself waits for itself.
example : (⟨[some (.sequence [.ref 0] fun _ => .ok 0)], .entry⟩ : Grammar Char Nat).consume (.ref 0)
    [] .start = none := by decide

/-- If any amount of fuel answers a composed rule, so does the fuel that it is given. -/
theorem consume_eq_some_iff (hrule : g.Composed rule) {s : Step κ ν} :
    g.consume rule ts p = some s ↔ g.Ends ts (rule, p) s := by
  refine ⟨fun hs => ⟨_, hs⟩, fun hs => ?_⟩
  obtain ⟨t, ht⟩ := (exists_consume_iff hrule).2 hs.not_comesRound
  rw [ht, hs.unique ⟨_, ht⟩]

end Grammar

end Descent
