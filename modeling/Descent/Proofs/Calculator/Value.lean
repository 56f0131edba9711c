import Descent.Proofs.Calculator.Evaluation
import Descent.Proofs.Calculator.Syntax
import Descent.Proofs.Lexer.Lexemes

/-!
# What the calculator computes

The calculator parses a text and folds the tree. The tree is the one that the tokens stand for; its
symbols are those of the four operations (`number_or_mem_symbols`), its numbers are the texts of the
number tokens (`numbers_eq_of_alternates`), and the fold leaves its value, or no number at all
(`transform?_eq_value`).
-/

namespace Descent.Calculator

variable {source : String} {ts : List (Token Kind)}

/-! ## Symbols -/

/-- The symbols of the operators. -/
def symbols : List (Kind × String) :=
  [(.plus, "+"), (.minus, "-"), (.multiply, "*"), (.divide, "/")]

theorem build_definitions : Lexer.build definitions = .ok lexer := by
  set_option maxRecDepth 4000 in decide

theorem alternates_lexer : lexer.Alternates :=
  Lexer.alternates_of_closes build_definitions (by decide)

/-- What is neither skipped nor a number is declared as a single character, its symbol. -/
theorem ofText?_of_mem_definitions {d : TokenDef Kind} (hd : d ∈ definitions) :
    d.skip = true ∨ d.kind = .number ∨ ∃ c, (d.kind, String.ofList [c]) ∈ symbols ∧
      Regex.ofText? d.pattern.toList = some (.one (.single c)) := by
  simp only [definitions, List.mem_cons, List.not_mem_nil, or_false] at hd
  rcases hd with rfl | rfl | rfl | rfl | rfl | rfl
  · exact Or.inr (Or.inr ⟨'+', by decide, by decide⟩)
  · exact Or.inr (Or.inr ⟨'-', by decide, by decide⟩)
  · exact Or.inr (Or.inr ⟨'*', by decide, by decide⟩)
  · exact Or.inr (Or.inr ⟨'/', by decide, by decide⟩)
  · exact Or.inr (Or.inl rfl)
  · exact Or.inl rfl

/-- A token is a number or an operator, which reads like its symbol. -/
theorem number_or_mem_symbols (hts : lexer.tokenize source = .ok ts) :
    ∀ t ∈ ts, t.kind = .number ∨ (t.kind, t.value) ∈ symbols := by
  intro t ht
  obtain ⟨d, hd, hskip, hkind, r, p, m, hr, hm, hvalue⟩ :=
    alternates_lexer.exists_def_of_mem build_definitions hts ht
  rcases ofText?_of_mem_definitions hd with h | h | ⟨c, hsymbol, hc⟩
  · rw [hskip] at h
    cases h
  · exact Or.inl (hkind.symm.trans h)
  · obtain rfl : r = .one (.single c) := Option.some.inj (hr.symm.trans hc)
    rw [hkind, ← Regex.take_of_matchAt?_single hm, ← hvalue] at hsymbol
    exact Or.inr hsymbol

/-! ## Numbers -/

namespace Expr

theorem numbers_rebalance (left : Expr) (op : String) (e : Expr) :
    (rebalance left op e).numbers = left.numbers ++ e.numbers := by
  induction e with
  | number text => rfl
  | node inner l r ihl _ =>
    unfold rebalance
    split
    · rw [numbers, ihl, numbers, List.append_assoc]
    · rfl

theorem numbers_ofLinks (first : String) (links : List Link) :
    (ofLinks first links).numbers = first :: links.map (·.2) := by
  induction links generalizing first with
  | nil => rfl
  | cons link rest ih => rw [ofLinks, numbers_rebalance, ih]; rfl

end Expr

/-- The numbers of links that use up the tokens are the numbers among these. -/
theorem map_snd_linksOf (h : 2 * (linksOf ts).length = ts.length) :
    (linksOf ts).map (·.2) = (ts.filter (·.kind = .number)).map (·.value) := by
  induction ts using linksOf.induct with
  | case1 o n rest ho ih =>
    have hoperator : o.kind ≠ .number := fun heq => absurd (heq ▸ ho.1) (by decide)
    rw [linksOf, if_pos ho] at h ⊢
    simp only [List.length_cons] at h
    rw [List.map_cons, ih (by omega), List.filter_cons_of_neg (by simpa using hoperator),
      List.filter_cons_of_pos (by simpa using ho.2), List.map_cons]
  | case2 o n rest ho => simp [linksOf, ho] at h
  | case3 ts hts =>
    rw [linksOf.eq_2 ts hts] at h ⊢
    rw [List.length_eq_zero_iff.1 h.symm]
    rfl

/-- The tree of tokens that alternate has their numbers. -/
theorem numbers_eq_of_alternates {e : Expr} (h : Alternates (ts.map (·.kind)))
    (hreading : e.reading = ts.map (·.value)) (hleans : e.LeansLeft) :
    e.numbers = (ts.filter (·.kind = .number)).map (·.value) := by
  obtain ⟨first, rest, rfl, hfirst, -, hlength⟩ := alternates_iff.1 h
  rw [List.map_cons, ← readingOf_linksOf hlength] at hreading
  rw [Expr.eq_ofLinks hleans hreading, Expr.numbers_ofLinks, map_snd_linksOf hlength,
    List.filter_cons_of_pos (by simpa using hfirst), List.map_cons]

/-! ## Whole texts -/

/-- A tree that is parsed is the one of tokens that alternate. -/
theorem exists_expr_of_result {tree : Value} (h : (run source).map (·.result) = some (.ok tree)) :
    ∃ (ts : List (Token Kind)) (e : Expr), lexer.tokenize source = .ok ts ∧
      Alternates (ts.map (·.kind)) ∧ tree = e.toValue ∧ e.reading = ts.map (·.value) ∧
      e.LeansLeft ∧ ∀ e' : Expr, e'.reading = ts.map (·.value) → e'.LeansLeft → e' = e := by
  have hlexer : parser.lexer = lexer := by rw [parser]
  rw [run, Parser.result_map] at h
  obtain ⟨result, hparse, hresult⟩ := Option.map_eq_some_iff.1 h
  cases hts : lexer.tokenize source with
  | error e =>
    rw [Parser.parse?_of_lexError (hlexer ▸ hts)] at hparse
    obtain rfl := Option.some.inj hparse
    cases hresult
  | ok ts =>
    by_cases halternates : Alternates (ts.map (·.kind))
    · obtain ⟨e, he, hreading, hleans, honly⟩ := parse?_of_alternates hts halternates
      obtain rfl := Option.some.inj (hparse.symm.trans he)
      exact ⟨ts, e, rfl, halternates, (Except.ok.inj hresult).symm, hreading, hleans, honly⟩
    · obtain ⟨e, he⟩ := parse?_of_not_alternates hts halternates
      obtain rfl := Option.some.inj (hparse.symm.trans he)
      cases hresult

/-- The calculator leaves something of every text that is parsed. The tokens of the text are numbers
and the symbols of the four operations, and its tree is the only one that reads like the tokens and
in which every left operand binds at least as tightly as its operation and every right operand
strictly tighter. A number is left just if each number token can be read as a finite float and the
value of each operation in the tree is finite, and this number is the value of the tree. -/
theorem transform?_eq_value {tree : Value} (h : (run source).map (·.result) = some (.ok tree)) :
    ∃ (ts : List (Token Kind)) (e : Expr) (r : Value), lexer.tokenize source = .ok ts ∧
      (∀ t ∈ ts, t.kind = .number ∨ (t.kind, t.value) ∈ symbols) ∧
      (tree = e.toValue ∧ e.reading = ts.map (·.value) ∧ e.LeansLeft ∧
        ∀ e' : Expr, e'.reading = ts.map (·.value) → e'.LeansLeft → e' = e) ∧
      calculator.transform? source = some (.ok (some r)) ∧
      (r.typeName = "number" ↔
        (∀ t ∈ ts, t.kind = .number → (Decimal.float? t.value.toList).any Float.isFinite) ∧
          ∀ op left right, .node op left right ∈ e.parts →
            (Expr.node op left right).value?.any Float.isFinite) ∧
      (r.typeName = "number" → ∃ x, e.value? = some x ∧ r = .float x) := by
  obtain ⟨ts, e, hts, halternates, rfl, hreading, hleans, honly⟩ := exists_expr_of_result h
  have htransform : calculator.transform? source = some (.ok (some e.outcome)) := by
    rw [← fold_toValue]
    exact Transformer.transform?_of_result h
  have hnumbers : (∀ text ∈ e.numbers, (Decimal.float? text.toList).any Float.isFinite) ↔
      ∀ t ∈ ts, t.kind = .number → (Decimal.float? t.value.toList).any Float.isFinite := by
    rw [numbers_eq_of_alternates halternates hreading hleans, List.forall_mem_map,
      List.forall_mem_filter]
    simp only [decide_eq_true_eq]
  refine ⟨ts, e, e.outcome, hts, number_or_mem_symbols hts, ⟨rfl, hreading, hleans, honly⟩,
    htransform, ?_, fun hnumber => ?_⟩
  · rw [Expr.typeName_outcome_eq_iff, Expr.finite_iff, hnumbers]
  · exact (Expr.typeName_outcome_eq_iff.1 hnumber).outcome_eq

/-- A quotient below a difference, once with numbers that can be read and once with a digit that is
none of the ten. -/
theorem transform?_eq_value_digits :
    let ts (digit : String) : List (Token Kind) :=
      [⟨.number, "6", ⟨⟨0, 0⟩, ⟨0, 1⟩⟩, 0⟩, ⟨.minus, "-", ⟨⟨0, 1⟩, ⟨0, 2⟩⟩, 1⟩,
        ⟨.number, "3", ⟨⟨0, 2⟩, ⟨0, 3⟩⟩, 2⟩, ⟨.divide, "/", ⟨⟨0, 3⟩, ⟨0, 4⟩⟩, 3⟩,
        ⟨.number, digit, ⟨⟨0, 4⟩, ⟨0, 5⟩⟩, 4⟩]
    (lexer.tokenize "6-3/2" = .ok (ts "2") ∧
      ∃ x, calculator.transform? "6-3/2" = some (.ok (some (.float x))) ∧ x == 4.5) ∧
    lexer.tokenize "6-3/٢" = .ok (ts "٢") ∧
      ∃ r, calculator.transform? "6-3/٢" = some (.ok (some r)) ∧ r.typeName ≠ "number" := by
  intro ts
  have hts : lexer.tokenize "6-3/2" = .ok (ts "2") := by
    set_option maxRecDepth 4000 in decide
  have hdigit : lexer.tokenize "6-3/٢" = .ok (ts "٢") := by
    set_option maxRecDepth 4000 in decide
  have haccepted {source : String} {digit : String} (h : lexer.tokenize source = .ok (ts digit)) :
      ∃ tree, (run source).map (·.result) = some (.ok tree) := by
    obtain ⟨e, he, -⟩ := parse?_of_alternates h ⟨[.minus, .divide], by decide, by decide, rfl⟩
    exact ⟨e.toValue, by rw [run, Parser.result_map, he]; rfl⟩
  refine ⟨⟨hts, ?_⟩, hdigit, ?_⟩
  · let tree : Expr := .node "-" (.number "6") (.node "/" (.number "3") (.number "2"))
    obtain ⟨_, h⟩ := haccepted hts
    obtain ⟨ts', e, r, hts', -, ⟨-, -, -, honly⟩, hr, hiff, hvalue⟩ := transform?_eq_value h
    obtain rfl := Except.ok.inj (hts'.symm.trans hts)
    obtain rfl := honly tree rfl (by simp [tree, Expr.LeansLeft, Expr.BindsBy, rank])
    have hnumbers : ∀ t ∈ ts "2", t.kind = .number →
        (Decimal.float? t.value.toList).any Float.isFinite := by decide
    have hfinite : tree.Finite := by rw [Expr.Finite]; decide
    have hhalf : tree.value?.all (· == 4.5) := by decide
    obtain ⟨x, hx, rfl⟩ := hvalue (hiff.2 ⟨hnumbers, (Expr.finite_iff.1 hfinite).2⟩)
    rw [hx] at hhalf
    exact ⟨x, hr, hhalf⟩
  · obtain ⟨_, h⟩ := haccepted hdigit
    obtain ⟨ts', e, r, hts', -, -, hr, hiff, -⟩ := transform?_eq_value h
    obtain rfl := Except.ok.inj (hts'.symm.trans hdigit)
    refine ⟨r, hr, fun hnumber => ?_⟩
    have hread := (hiff.1 hnumber).1 ⟨.number, "٢", ⟨⟨0, 4⟩, ⟨0, 5⟩⟩, 4⟩ (by simp [ts]) rfl
    cases hread

end Descent.Calculator
