import Descent.Parser
import Descent.Rule.Fuel
import Descent.Proofs.Rule.Yields

/-!
# How a parse ends

A parse of a text that has tokens ends as the run of its root rule does: with the value, if the run
has taken all tokens, with a complaint about the next token, if it has left some, and with the error
of the rule otherwise (`Parser.parse?_eq_some_iff` and what is said there of `Parser.conclude`). A
run may be looked at with less fuel than `Grammar.consume` gives it, since more would not change it.
-/

namespace Descent

namespace Grammar

open Consumer

variable {κ ν : Type} [DecidableEq κ] {g : Grammar κ ν} {rule : Rule κ ν} {ts : List (Token κ)}
  {p q : Cursor} {v : ν} {m n : Nat}

theorem yields_mono (h : m ≤ n) (hv : Yields (g.run m rule) ts p v q) :
    Yields (g.run n rule) ts p v q := by
  obtain ⟨log, hv⟩ := hv
  exact ⟨log, run_mono h hv⟩

theorem fails_mono (h : m ≤ n) (hf : Fails (g.run m rule) ts p) : Fails (g.run n rule) ts p := by
  obtain ⟨failure, q, log, hf⟩ := hf
  exact ⟨failure, q, log, run_mono h hf⟩

end Grammar

namespace Parser

open Consumer

variable {κ ν : Type} [DecidableEq κ] {P : Parser κ ν} {source : String} {ts : List (Token κ)}
  {v : ν} {q fuel : Nat}

theorem parse?_eq (hts : P.lexer.tokenize source = .ok ts) :
    P.parse? source = (P.grammar.consume P.root ts .start).map fun s => (conclude ts s).result := by
  unfold parse? run tokens
  rw [hts]
  exact Option.map_map _ _ _

/-- A parse whose value is converted has the same result, converted. -/
theorem result_map {μ : Type} (P : Parser κ ν) (f : ν → μ) (source : String) :
    ((P.run source).map (·.map f)).map (·.result)
      = (P.parse? source).map fun result => result.map f := by
  have hparse : P.parse? source = (P.run source).map (·.result) := rfl
  rw [hparse, Option.map_map, Option.map_map]
  rfl

/-- A text without tokens gives the error of the lexer. -/
theorem parse?_of_lexError {e : LexError} (he : P.lexer.tokenize source = .error e) :
    P.parse? source = some (.error (.lex e)) := by
  unfold parse? run tokens
  rw [he]
  rfl

/-- A parse that ends has ended in the lexer, or as the run of the root rule tells. -/
theorem parse?_eq_some_iff {result : Except Error ν} :
    P.parse? source = some result ↔
      (∃ e, P.lexer.tokenize source = .error e ∧ result = .error (.lex e)) ∨
      ∃ ts s, P.lexer.tokenize source = .ok ts ∧ P.grammar.consume P.root ts .start = some s ∧
        result = (conclude ts s).result := by
  constructor
  · intro h
    cases hts : P.lexer.tokenize source with
    | error e =>
      rw [parse?_of_lexError hts] at h
      exact Or.inl ⟨e, rfl, (Option.some.inj h).symm⟩
    | ok ts =>
      rw [parse?_eq hts] at h
      obtain ⟨s, hs, rfl⟩ := Option.map_eq_some_iff.1 h
      exact Or.inr ⟨ts, s, rfl, hs, rfl⟩
  · rintro (⟨e, he, rfl⟩ | ⟨ts, s, hts, hs, rfl⟩)
    · exact parse?_of_lexError he
    · rw [parse?_eq hts, hs, Option.map_some]

omit [DecidableEq κ] in
theorem conclude_eq_ok_iff {s : Step κ ν} :
    (conclude ts s).result = .ok v ↔ s.outcome = .ok v ∧ ts.length ≤ s.cursor := by
  rw [conclude, ← List.getElem?_eq_none_iff]
  cases s.outcome with
  | error failure => simp
  | ok value => cases ts[s.cursor]? <;> simp

omit [DecidableEq κ] in
theorem conclude_eq_trailing_iff {s : Step κ ν} {found : String} {position : Position}
    {span : Span} :
    (conclude ts s).result = .error (.trailing found position span) ↔
      (∃ v, s.outcome = .ok v) ∧ ∃ h : s.cursor < ts.length,
        found = ts[s.cursor].value ∧ position = ts[s.cursor].location.start ∧
          span = ts[s.cursor].span := by
  rw [conclude]
  cases s.outcome with
  | error failure => simp [Error.ofFailure]
  | ok value =>
    by_cases h : s.cursor < ts.length
    · simp [h, eq_comm]
    · simp [h]

omit [DecidableEq κ] in
theorem conclude_eq_parse_iff {s : Step κ ν} {e : ParseError} :
    (conclude ts s).result = .error (.parse e) ↔
      ∃ failure, s.outcome = .error failure ∧ failure.error = e := by
  rw [conclude]
  cases s.outcome with
  | error failure => simp [Error.ofFailure]
  | ok value => cases ts[s.cursor]? <;> simp

/-- A run to the end of the tokens gives the value. -/
theorem parse?_of_yields (hts : P.lexer.tokenize source = .ok ts)
    (hfuel : fuel ≤ P.grammar.fuelFor P.root ts)
    (hv : Yields (P.grammar.run fuel P.root) ts .start v q) (hq : ts.length ≤ q) :
    P.parse? source = some (.ok v) := by
  obtain ⟨log, hv⟩ := Grammar.yields_mono hfuel hv
  have hnone : ts[q]? = none := List.getElem?_eq_none hq
  rw [parse?_eq hts, Grammar.consume, hv, Option.map_some, conclude]
  simp only [hnone]

/-- A run that leaves tokens makes the next one an error. -/
theorem parse?_of_yields_short (hts : P.lexer.tokenize source = .ok ts)
    (hfuel : fuel ≤ P.grammar.fuelFor P.root ts)
    (hv : Yields (P.grammar.run fuel P.root) ts .start v q) (hq : q < ts.length) :
    P.parse? source
      = some (.error (.trailing ts[q].value ts[q].location.start ts[q].span)) := by
  obtain ⟨log, hv⟩ := Grammar.yields_mono hfuel hv
  have hsome : ts[q]? = some ts[q] := List.getElem?_eq_getElem hq
  rw [parse?_eq hts, Grammar.consume, hv, Option.map_some, conclude]
  simp only [hsome]

/-- A run that fails gives its error. -/
theorem parse?_of_fails (hts : P.lexer.tokenize source = .ok ts)
    (hfuel : fuel ≤ P.grammar.fuelFor P.root ts)
    (hf : Fails (P.grammar.run fuel P.root) ts .start) :
    ∃ e, P.parse? source = some (.error (.parse e)) := by
  obtain ⟨failure, q, log, hf⟩ := Grammar.fails_mono hfuel hf
  refine ⟨failure.error, ?_⟩
  rw [parse?_eq hts, Grammar.consume, hf, Option.map_some, conclude]
  rfl

end Parser

end Descent
