import Mathlib.Control.Monad.Basic
import Descent.Proofs.Calculator.Tree
import Descent.Proofs.Parse

/-!
# What the calculator accepts

The rule for expressions calls itself behind an operator and, should that fail, takes a single
number there. So it never looks back: it takes a number and then as many links, of an operator and a
number each, as there are (`linksOf`), and it fails only if there is none. What a parse accepts are
thus the token lists that the links use up, and what it yields is the tree that they make.
-/

namespace Descent.Calculator

open Consumer

/-! ## Token lists -/

/-- The links at the front of some tokens, as many as there are. -/
def linksOf : List (Token Kind) → List Link
  | o :: n :: rest =>
    if o.kind ∈ operators ∧ n.kind = .number then (o.value, n.value) :: linksOf rest else []
  | _ => []

/-- Whether kinds of tokens are a number and then, at least once, an operator and a number. -/
def Alternates (kinds : List Kind) : Prop :=
  ∃ ops : List Kind, ops ≠ [] ∧ (∀ op ∈ ops, op ∈ operators) ∧
    kinds = .number :: ops.flatMap fun op => [op, .number]

theorem length_linksOf_le (ts : List (Token Kind)) : 2 * (linksOf ts).length ≤ ts.length := by
  induction ts using linksOf.induct with
  | case1 o n rest h ih =>
    rw [linksOf, if_pos h]
    simp only [List.length_cons]
    omega
  | case2 o n rest h => simp [linksOf, h]
  | case3 ts h => rw [linksOf.eq_2 ts h]; simp

/-- There is no link if no operator comes first or no number comes second. -/
theorem linksOf_eq_nil_iff {ts : List (Token Kind)} :
    linksOf ts = [] ↔ ∀ o n, ts[0]? = some o → o.kind ∈ operators → ts[1]? = some n →
      n.kind ≠ .number := by
  match ts with
  | [] => simp [linksOf]
  | [o] => simp [linksOf]
  | o :: n :: rest => simp [linksOf]

/-- Links that use up the tokens read like them. -/
theorem readingOf_linksOf {ts : List (Token Kind)} (h : 2 * (linksOf ts).length = ts.length) :
    readingOf (linksOf ts) = ts.map (·.value) := by
  induction ts using linksOf.induct with
  | case1 o n rest ho ih =>
    rw [linksOf, if_pos ho] at h ⊢
    simp only [List.length_cons] at h
    rw [readingOf, List.flatMap_cons, ← readingOf, ih (by omega)]
    rfl
  | case2 o n rest ho => simp [linksOf, ho] at h
  | case3 ts hts =>
    rw [linksOf.eq_2 ts hts] at h ⊢
    rw [List.length_eq_zero_iff.1 h.symm]
    rfl

/-- The links use up exactly the tokens that are operators and numbers in turn. -/
theorem length_linksOf_eq_iff {ts : List (Token Kind)} :
    2 * (linksOf ts).length = ts.length ↔ ∃ ops : List Kind, (∀ op ∈ ops, op ∈ operators) ∧
      ts.map (·.kind) = ops.flatMap fun op => [op, .number] := by
  constructor
  · intro h
    induction ts using linksOf.induct with
    | case1 o n rest ho ih =>
      rw [linksOf, if_pos ho] at h
      simp only [List.length_cons] at h
      obtain ⟨ops, hops, hkinds⟩ := ih (by omega)
      refine ⟨o.kind :: ops, List.forall_mem_cons.2 ⟨ho.1, hops⟩, ?_⟩
      simp [hkinds, ho.2]
    -- two tokens that are no link are left over
    | case2 o n rest ho => simp [linksOf, ho] at h
    | case3 ts hts =>
      rw [linksOf.eq_2 ts hts] at h
      rw [List.length_eq_zero_iff.1 h.symm]
      exact ⟨[], nofun, rfl⟩
  · rintro ⟨ops, hops, hkinds⟩
    induction ops generalizing ts with
    | nil => rw [List.map_eq_nil_iff.1 hkinds]; rfl
    | cons op ops ih =>
      obtain ⟨hop, hops⟩ := List.forall_mem_cons.1 hops
      rw [List.flatMap_cons, List.cons_append, List.cons_append, List.nil_append] at hkinds
      obtain ⟨o, tail, rfl, ho, htail⟩ := List.map_eq_cons_iff.1 hkinds
      obtain ⟨n, rest, rfl, hn, hrest⟩ := List.map_eq_cons_iff.1 htail
      rw [linksOf, if_pos ⟨ho ▸ hop, hn⟩]
      have hlength := ih hops hrest
      simp only [List.length_cons]
      omega

theorem alternates_iff {ts : List (Token Kind)} :
    Alternates (ts.map (·.kind)) ↔ ∃ first rest, ts = first :: rest ∧ first.kind = .number ∧
      linksOf rest ≠ [] ∧ 2 * (linksOf rest).length = rest.length := by
  constructor
  · rintro ⟨ops, hne, hops, hkinds⟩
    obtain ⟨first, rest, rfl, hfirst, hkinds⟩ := List.map_eq_cons_iff.1 hkinds
    have hlength := length_linksOf_eq_iff.2 ⟨ops, hops, hkinds⟩
    refine ⟨first, rest, rfl, hfirst, fun hnil => hne ?_, hlength⟩
    rw [hnil, List.length_nil, Nat.mul_zero] at hlength
    rw [List.length_eq_zero_iff.1 hlength.symm] at hkinds
    cases ops with
    | nil => rfl
    | cons op ops => simp at hkinds
  · rintro ⟨first, rest, rfl, hfirst, hne, hlength⟩
    obtain ⟨ops, hops, hkinds⟩ := length_linksOf_eq_iff.1 hlength
    refine ⟨ops, fun hnil => hne ?_, hops, by rw [List.map_cons, hfirst, hkinds]⟩
    rw [hnil, List.flatMap_nil, List.map_eq_nil_iff] at hkinds
    rw [hkinds]
    rfl

/-! ## Runs of the rules -/

variable {ts : List (Token Kind)} {p q : Cursor} {t o : Token Kind} {fuel : Nat}

theorem yields_number (ht : ts[p]? = some t) (hkind : t.kind = .number) :
    Yields (grammar.run (fuel + 2) number) ts p (.expr (.number t.value)) (p + 1) :=
  .named "number" (Grammar.yields_token ht hkind rfl)

theorem balks_number (h : ∀ t, ts[p]? = some t → t.kind ≠ .number) :
    Balks (grammar.run (fuel + 2) number) ts p :=
  .named "number" (Grammar.balks_token fun t _ ht hkind => absurd hkind (h t ht))

theorem yields_operator (ho : ts[p]? = some o) (hkind : o.kind ∈ operators) :
    Yields (grammar.run (fuel + 3) operator) ts p (.operator o.value) (p + 1) := by
  obtain ⟨before, after, hops, hbefore⟩ := List.eq_append_cons_of_mem hkind
  refine .named "operator" ?_
  rw [Grammar.run, hops, List.map_append, List.map_append, List.map_cons, List.map_cons]
  refine .choice _ _ (fun c hc => ?_) (Grammar.yields_token ho rfl rfl)
  obtain ⟨rule, hrule, rfl⟩ := List.mem_map.1 hc
  obtain ⟨kind, hbeforekind, rfl⟩ := List.mem_map.1 hrule
  refine Grammar.balks_token fun t _ ht htkind => absurd hbeforekind ?_
  rw [← htkind, ← Option.some.inj (ho.symm.trans ht)]
  exact hbefore

theorem balks_operator (h : ∀ o, ts[p]? = some o → o.kind ∉ operators) :
    Balks (grammar.run (fuel + 3) operator) ts p := by
  refine .named "operator" (.choice fun c hc => ?_)
  obtain ⟨rule, hrule, rfl⟩ := List.mem_map.1 hc
  obtain ⟨kind, hkind, rfl⟩ := List.mem_map.1 hrule
  exact Grammar.balks_token fun t _ ht htkind => absurd (htkind ▸ hkind) (h t ht)

/-- What stands behind an operator: an expression, or else a number. -/
def operand : Rule Kind Part := .choice [.ref 0, number]

/-- One round of the rule for expressions that comes to an operand. -/
theorem yields_expression {e : Expr} (ht : ts[p]? = some t) (htkind : t.kind = .number)
    (ho : ts[p + 1]? = some o) (hokind : o.kind ∈ operators)
    (he : Yields (grammar.run (fuel + 3) operand) ts (p + 2) (.expr e) q) :
    Yields (grammar.run (fuel + 5) (.ref 0)) ts p
      (.expr (.rebalance (.number t.value) o.value e)) q := by
  have hnumber : Yields (grammar.run (fuel + 3) number) ts p _ (p + 1) := yields_number ht htkind
  have hoperator : Yields (grammar.run (fuel + 3) operator) ts (p + 1) _ (p + 2) :=
    yields_operator ho hokind
  exact .sequence (.inOrder_cons hnumber (.inOrder_cons hoperator
    (.inOrder_cons he yields_inOrder_nil))) rfl

/-- One round that comes to no operand. -/
theorem balks_expression
    (h : ∀ t o, ts[p]? = some t → t.kind = .number → ts[p + 1]? = some o → o.kind ∈ operators →
      Balks (grammar.run (fuel + 3) operand) ts (p + 2)) :
    Balks (grammar.run (fuel + 5) (.ref 0)) ts p := by
  refine .sequence ?_
  by_cases hnumber : ∃ t, ts[p]? = some t ∧ t.kind = .number
  · obtain ⟨t, ht, htkind⟩ := hnumber
    refine .inOrder_tail (yields_number ht htkind) ?_
    by_cases hoperator : ∃ o, ts[p + 1]? = some o ∧ o.kind ∈ operators
    · obtain ⟨o, ho, hokind⟩ := hoperator
      exact .inOrder_tail (yields_operator ho hokind) (.inOrder_head (h t o ht htkind ho hokind))
    · exact .inOrder_head (balks_operator fun o ho hokind => hoperator ⟨o, ho, hokind⟩)
  · exact .inOrder_head (balks_number fun t ht htkind => hnumber ⟨t, ht, htkind⟩)

/-- Where no link stands behind a number, or no number at all, there is no expression. -/
theorem balks_of_no_link
    (h : ∀ t o n, ts[p]? = some t → t.kind = .number → ts[p + 1]? = some o → o.kind ∈ operators →
      ts[p + 2]? = some n → n.kind ≠ .number) :
    Balks (grammar.run (fuel + 8) (.ref 0)) ts p := by
  refine balks_expression fun t o ht htkind ho hokind => ?_
  -- neither an expression nor a number can begin behind the operator
  have hnumber := fun n => h t o n ht htkind ho hokind
  refine .choice (List.forall_mem_cons.2 ⟨?_, List.forall_mem_singleton.2 (balks_number hnumber)⟩)
  exact balks_expression fun n _ hn hnkind => absurd hnkind (hnumber n hn)

/-- A run from a number takes all links behind it. The induction is on the tokens left, two of which
a link takes. -/
theorem yields_links {first : Token Kind} {rest : List (Token Kind)}
    (hdrop : ts.drop p = first :: rest) (hfirst : first.kind = .number)
    (hlinks : linksOf rest ≠ []) (hfuel : 3 * rest.length + 8 ≤ fuel) :
    Yields (grammar.run fuel (.ref 0)) ts p (.expr (.ofLinks first.value (linksOf rest)))
      (p + (1 + 2 * (linksOf rest).length)) := by
  induction rest using linksOf.induct generalizing p first fuel with
  | case1 o n rest h ih =>
    simp only [List.length_cons] at hfuel
    obtain ⟨fuel, rfl⟩ : ∃ more, fuel = more + 5 := ⟨fuel - 5, by omega⟩
    have hget : ∀ i, ts[p + i]? = (first :: o :: n :: rest)[i]? := fun i => by
      rw [← hdrop, List.getElem?_drop]
    have hnext : ts.drop (p + 2) = n :: rest := by rw [← List.drop_drop, hdrop]; rfl
    have hoperand : Yields (grammar.run (fuel + 3) operand) ts (p + 2)
        (.expr (.ofLinks n.value (linksOf rest))) (p + 2 + (1 + 2 * (linksOf rest).length)) := by
      -- behind the operator an expression is tried first, and then a single number
      by_cases hmore : linksOf rest = []
      · obtain ⟨fuel, rfl⟩ : ∃ more, fuel = more + 6 := ⟨fuel - 6, by omega⟩
        have hbalks : Balks (grammar.run (fuel + 8) (.ref 0)) ts (p + 2) := by
          refine balks_of_no_link fun _ o' n' _ _ ho' hokind hn' => ?_
          exact linksOf_eq_nil_iff.1 hmore o' n' ((hget 3).symm.trans ho') hokind
            ((hget 4).symm.trans hn')
        rw [hmore]
        exact .choice [_] [] (List.forall_mem_singleton.2 hbalks) (yields_number (hget 2) h.2)
      · exact .choice_head (ih hnext h.2 hmore (by omega))
    have hexpr := yields_expression (hget 0) hfirst (hget 1) h.1 hoperand
    have hend : p + 2 + (1 + 2 * (linksOf rest).length)
        = p + (1 + 2 * ((linksOf rest).length + 1)) := by grind
    rw [linksOf, if_pos h, List.length_cons, ← hend]
    exact hexpr
  | case2 o n rest h => exact absurd (by rw [linksOf, if_neg h]) hlinks
  | case3 rest hrest => exact absurd (linksOf.eq_2 rest hrest) hlinks

/-! ## Parses -/

variable {source : String}

theorem parser_tokenize (hts : lexer.tokenize source = .ok ts) :
    parser.lexer.tokenize source = .ok ts := by
  have hlexer : parser.lexer = lexer := by rw [parser]
  rw [hlexer, hts]

theorem fuelFor_root (ts : List (Token Kind)) :
    3 * ts.length + 9 ≤ parser.grammar.fuelFor parser.root ts := by
  have hsize : parser.grammar.size + parser.root.size = 15 := rfl
  rw [Grammar.fuelFor, hsize]
  omega

/-- The run of the root over tokens that begin with a number and some links. -/
theorem yields_root {first : Token Kind} {rest : List (Token Kind)} (hfirst : first.kind = .number)
    (hlinks : linksOf rest ≠ []) :
    Yields (grammar.run (3 * rest.length + 9) parser.root) (first :: rest) .start
      (.expr (.ofLinks first.value (linksOf rest))) (1 + 2 * (linksOf rest).length) := by
  have hv := yields_links (p := 0) rfl hfirst hlinks (Nat.le_refl _)
  rw [Nat.zero_add] at hv
  exact .named "expression" hv

/-- A text whose tokens alternate gives the one tree that reads like its tokens and leans to the
left. -/
theorem parse?_of_alternates (hts : lexer.tokenize source = .ok ts)
    (h : Alternates (ts.map (·.kind))) :
    ∃ e : Expr, parser.parse? source = some (.ok (.expr e)) ∧ e.reading = ts.map (·.value) ∧
      e.LeansLeft ∧ ∀ e' : Expr, e'.reading = ts.map (·.value) → e'.LeansLeft → e' = e := by
  obtain ⟨first, rest, rfl, hfirst, hlinks, hlength⟩ := alternates_iff.1 h
  have hreading := readingOf_linksOf hlength
  refine ⟨.ofLinks first.value (linksOf rest), ?_, ?_, Expr.leansLeft_ofLinks _ _, ?_⟩
  · have hfuel := fuelFor_root (first :: rest)
    rw [List.length_cons] at hfuel
    exact Parser.parse?_of_yields (parser_tokenize hts) (by omega) (yields_root hfirst hlinks)
      (by rw [List.length_cons]; omega)
  · rw [Expr.reading_ofLinks, hreading, List.map_cons]
  · intro e' he' hleans
    rw [List.map_cons, ← hreading] at he'
    exact Expr.eq_ofLinks hleans he'

/-- A text whose tokens do not alternate is an error. -/
theorem parse?_of_not_alternates (hts : lexer.tokenize source = .ok ts)
    (h : ¬Alternates (ts.map (·.kind))) : ∃ e, parser.parse? source = some (.error e) := by
  have hfuel := fuelFor_root ts
  by_cases hsome : ∃ first rest, ts = first :: rest ∧ first.kind = .number ∧ linksOf rest ≠ []
  · -- the run stops behind the last link, in front of other tokens
    obtain ⟨first, rest, rfl, hfirst, hlinks⟩ := hsome
    have hle := length_linksOf_le rest
    have hne : 2 * (linksOf rest).length ≠ rest.length := fun heq =>
      h (alternates_iff.2 ⟨first, rest, rfl, hfirst, hlinks, heq⟩)
    rw [List.length_cons] at hfuel
    exact ⟨_, Parser.parse?_of_yields_short (parser_tokenize hts) (by omega)
      (yields_root hfirst hlinks) (by rw [List.length_cons]; omega)⟩
  · have hbalks : Balks (grammar.run 8 (.ref 0)) ts 0 := by
      refine balks_of_no_link fun t o n ht htkind ho hokind hn hnkind => hsome ?_
      cases ts with
      | nil => nomatch ht
      | cons first rest =>
        obtain rfl := Option.some.inj ht
        exact ⟨first, rest, rfl, htkind, fun hnil =>
          linksOf_eq_nil_iff.1 hnil o n ho hokind hn hnkind⟩
    have hroot : Balks (grammar.run 9 parser.root) ts .start := hbalks.named "expression"
    obtain ⟨e, he⟩ := Parser.parse?_of_fails (parser_tokenize hts) (by omega) hroot.fails
    exact ⟨_, he⟩

/-- A parse of a text that has tokens always ends, and with a tree just if the tokens are a number
and then, at least once, an operator and a number. The tree is then the only one that reads like the
tokens and in which every left operand binds at least as tightly as its operation and every right
operand strictly tighter. -/
theorem run_eq_ok_iff (hts : lexer.tokenize source = .ok ts) :
    ∃ result, (run source).map (·.result) = some result ∧
      ((∃ v, result = .ok v) ↔ Alternates (ts.map (·.kind))) ∧
      ∀ v, result = .ok v → ∃ e : Expr, v = e.toValue ∧ e.reading = ts.map (·.value) ∧
        e.LeansLeft ∧ ∀ e' : Expr, e'.reading = ts.map (·.value) → e'.LeansLeft → e' = e := by
  have hrun : (run source).map (·.result)
      = (parser.parse? source).map fun result => result.map Part.toValue := by
    rw [run, Parser.parse?, Option.map_map, Option.map_map]
    rfl
  by_cases h : Alternates (ts.map (·.kind))
  · obtain ⟨e, he, hreading, hleans, honly⟩ := parse?_of_alternates hts h
    refine ⟨.ok e.toValue, by rw [hrun, he]; rfl, iff_of_true ⟨_, rfl⟩ h, ?_⟩
    rintro v hv
    exact ⟨e, (Except.ok.inj hv).symm, hreading, hleans, honly⟩
  · obtain ⟨e, he⟩ := parse?_of_not_alternates hts h
    refine ⟨.error e, by rw [hrun, he]; rfl, iff_of_false nofun h, nofun⟩

/-- Three operations, one of them of higher rank between two of lower. -/
theorem run_eq_ok_iff_between :
    let ts : List (Token Kind) :=
      [⟨.number, "8", ⟨⟨0, 0⟩, ⟨0, 1⟩⟩, 0⟩, ⟨.minus, "-", ⟨⟨0, 1⟩, ⟨0, 2⟩⟩, 1⟩,
        ⟨.number, "4", ⟨⟨0, 2⟩, ⟨0, 3⟩⟩, 2⟩, ⟨.divide, "/", ⟨⟨0, 3⟩, ⟨0, 4⟩⟩, 3⟩,
        ⟨.number, "2", ⟨⟨0, 4⟩, ⟨0, 5⟩⟩, 4⟩, ⟨.minus, "-", ⟨⟨0, 5⟩, ⟨0, 6⟩⟩, 5⟩,
        ⟨.number, "1", ⟨⟨0, 6⟩, ⟨0, 7⟩⟩, 6⟩]
    lexer.tokenize "8-4/2-1" = .ok ts ∧
      (run "8-4/2-1").map (·.result) = some (.ok (Expr.toValue
        (.node "-" (.node "-" (.number "8") (.node "/" (.number "4") (.number "2")))
          (.number "1")))) := by
  intro ts
  have hts : lexer.tokenize "8-4/2-1" = .ok ts := by
    set_option maxRecDepth 4000 in decide
  obtain ⟨result, hresult, hiff, htree⟩ := run_eq_ok_iff hts
  obtain ⟨v, rfl⟩ := hiff.2 ⟨[.minus, .divide, .minus], by decide, by decide, rfl⟩
  obtain ⟨e, rfl, -, -, honly⟩ := htree v rfl
  refine ⟨hts, ?_⟩
  rw [hresult, ← honly (.node "-" (.node "-" (.number "8") (.node "/" (.number "4") (.number "2")))
    (.number "1")) rfl (by simp [Expr.LeansLeft, Expr.BindsBy, rank])]

end Descent.Calculator
