import Descent.Proofs.Parse
import Descent.Proofs.Rule.Calls

/-!
# All tokens are taken

A parser takes a cursor behind the last token for a sign that all tokens have been taken, and a
cursor can be made to point anywhere. But a run of a composed rule never goes back, and it passes
only tokens that are there: entered among the tokens, it stays among them, as do all rules that it
calls. So a parse gives a value only if the root rule has stopped exactly behind the last token
(`Parser.parse?_eq_ok_iff`), and each error of a parse tells how the run has ended.
-/

namespace Descent

namespace Parser

variable {κ ν : Type} [DecidableEq κ] {P : Parser κ ν} {source : String}

/-- A parse that gets past the lexer ends as the run of the root rule tells. -/
theorem parse?_eq_iff_conclude {result : Except Error ν} (hlex : ∀ e, result ≠ .error (.lex e)) :
    P.parse? source = some result ↔
      ∃ ts s, P.lexer.tokenize source = .ok ts ∧ P.grammar.consume P.root ts .start = some s ∧
        (conclude ts s).result = result := by
  rw [parse?_eq_some_iff]
  constructor
  · rintro (⟨e, -, he⟩ | ⟨ts, s, hts, hs, heq⟩)
    · exact absurd he (hlex e)
    · exact ⟨ts, s, hts, hs, heq.symm⟩
  · rintro ⟨ts, s, hts, hs, heq⟩
    exact Or.inr ⟨ts, s, hts, hs, heq.symm⟩

/-- A parse of a composed rule gives a value exactly if the rule does, and all tokens are taken. -/
theorem parse?_eq_ok_iff (hroot : P.grammar.Composed P.root) {v : ν} :
    P.parse? source = some (.ok v) ↔
      ∃ ts s, P.lexer.tokenize source = .ok ts ∧ P.grammar.consume P.root ts .start = some s ∧
        s.outcome = .ok v ∧ s.cursor = ts.length := by
  refine (parse?_eq_iff_conclude (by simp)).trans ?_
  constructor
  · rintro ⟨ts, s, hts, hs, heq⟩
    obtain ⟨hok, hle⟩ := conclude_eq_ok_iff.1 heq
    have hends : P.grammar.Ends ts (P.root, .start) s := ⟨_, hs⟩
    have hmax : s.cursor ≤ max 0 ts.length := (hends.bounds hroot hok).2
    rw [Nat.zero_max] at hmax
    exact ⟨ts, s, hts, hs, hok, Nat.le_antisymm hmax hle⟩
  · rintro ⟨ts, s, hts, hs, hok, hcursor⟩
    exact ⟨ts, s, hts, hs, conclude_eq_ok_iff.2 ⟨hok, Nat.le_of_eq hcursor.symm⟩⟩

theorem parse?_eq_trailing_iff {found : String} {position : Position} {span : Span} :
    P.parse? source = some (.error (.trailing found position span)) ↔
      ∃ ts s v, P.lexer.tokenize source = .ok ts ∧
        P.grammar.consume P.root ts .start = some s ∧ s.outcome = .ok v ∧
          ∃ h : s.cursor < ts.length, found = ts[s.cursor].value ∧
            position = ts[s.cursor].location.start ∧ span = ts[s.cursor].span := by
  refine (parse?_eq_iff_conclude (by simp)).trans ?_
  simp only [conclude_eq_trailing_iff, exists_and_left, exists_and_right]

theorem parse?_eq_parse_iff {e : ParseError} :
    P.parse? source = some (.error (.parse e)) ↔
      ∃ ts s failure, P.lexer.tokenize source = .ok ts ∧
        P.grammar.consume P.root ts .start = some s ∧ s.outcome = .error failure ∧
          failure.error = e := by
  refine (parse?_eq_iff_conclude (by simp)).trans ?_
  simp only [conclude_eq_parse_iff, exists_and_left]

end Parser

namespace Grammar

variable {κ ν : Type} [DecidableEq κ] {g : Grammar κ ν} {rule : Rule κ ν}

/-- A composed rule entered among the tokens ends among them and does not go back, and all that it
calls is entered between its own cursor and the end of the tokens. A parse with such a root rule
gives a value exactly if the root rule gives it with all tokens taken; it complains about a token
left over exactly if the root rule has stopped there; and it has an error of the grammar exactly if
the root rule has failed with that. -/
theorem cursors_stay_in_bounds (hrule : g.Composed rule) :
    (∀ (ts : List (Token κ)) (p : Cursor), p ≤ ts.length →
      (∀ s v, g.consume rule ts p = some s → s.outcome = .ok v →
        p ≤ s.cursor ∧ s.cursor ≤ ts.length) ∧
      ∀ d, Relation.ReflTransGen (g.Calls ts) (rule, p) d → p ≤ d.2 ∧ d.2 ≤ ts.length) ∧
    ∀ (l : Lexer κ) (source : String),
      (∀ v, (Parser.mk l g rule).parse? source = some (.ok v) ↔
        ∃ ts s, l.tokenize source = .ok ts ∧ g.consume rule ts .start = some s ∧
          s.outcome = .ok v ∧ s.cursor = ts.length) ∧
      (∀ found position span,
        (Parser.mk l g rule).parse? source = some (.error (.trailing found position span)) ↔
          ∃ ts s v, l.tokenize source = .ok ts ∧ g.consume rule ts .start = some s ∧
            s.outcome = .ok v ∧ ∃ h : s.cursor < ts.length, found = ts[s.cursor].value ∧
              position = ts[s.cursor].location.start ∧ span = ts[s.cursor].span) ∧
      ∀ e, (Parser.mk l g rule).parse? source = some (.error (.parse e)) ↔
        ∃ ts s failure, l.tokenize source = .ok ts ∧ g.consume rule ts .start = some s ∧
          s.outcome = .error failure ∧ failure.error = e := by
  refine ⟨fun ts p hp => ⟨fun s v hs hok => ?_, fun d hcalls => ?_⟩, fun l source => ?_⟩
  · have hends : g.Ends ts (rule, p) s := ⟨_, hs⟩
    obtain ⟨hle, hmax⟩ := hends.bounds hrule hok
    exact ⟨hle, Nat.max_eq_right hp ▸ hmax⟩
  · obtain ⟨hle, hmax⟩ := bounds_of_calls hcalls hrule
    exact ⟨hle, Nat.max_eq_right hp ▸ hmax⟩
  · exact ⟨fun v => Parser.parse?_eq_ok_iff (P := ⟨l, g, rule⟩) hrule,
      fun found position span => Parser.parse?_eq_trailing_iff,
      fun e => Parser.parse?_eq_parse_iff⟩

/-- A list whose items need no tokens: it runs over the delimiters, stops at what is none, and never
looks behind the last token. -/
theorem cursors_stay_in_bounds_empty_items :
    let nothing : Rule String Nat := .optional (.tokens [] fun _ => .ok 0) fun _ => 0
    let rule : Rule String Nat := .list nothing "comma" List.length
    let g : Grammar String Nat := ⟨[], .furthest⟩
    let l : Lexer String := .ofDefs [⟨"comma", ",", false⟩, ⟨"n", "n", false⟩, ⟨"blank", " ", true⟩]
    let ts : List (Token String) :=
      [⟨"comma", ",", ⟨⟨0, 0⟩, ⟨0, 1⟩⟩, 0⟩, ⟨"comma", ",", ⟨⟨0, 2⟩, ⟨0, 3⟩⟩, 2⟩,
        ⟨"n", "n", ⟨⟨0, 3⟩, ⟨0, 4⟩⟩, 3⟩]
    g.Composed rule ∧ 1 ≤ ts.length ∧
      (∀ d, Relation.ReflTransGen (g.Calls ts) (rule, 1) d → 1 ≤ d.2 ∧ d.2 ≤ ts.length) ∧
      (⟨l, g, rule⟩ : Parser String Nat).parse? ", ,n"
        = some (.error (.trailing "n" ⟨0, 3⟩ ⟨3, 1⟩)) ∧
      ∃ us s v, l.tokenize ", ,n" = .ok us ∧ g.consume rule us .start = some s ∧
        s.outcome = .ok v ∧ ∃ h : s.cursor < us.length, "n" = us[s.cursor].value ∧
          ⟨0, 3⟩ = us[s.cursor].location.start ∧ ⟨3, 1⟩ = us[s.cursor].span := by
  intro nothing rule g l ts
  have hrule : g.Composed rule := composed_of_isPlain rfl rfl
  have hp : 1 ≤ ts.length := by decide
  have hts : l.tokenize ", ,n" = .ok ts := by decide
  have hparse : (⟨l, g, rule⟩ : Parser String Nat).parse? ", ,n"
      = some (.error (.trailing "n" ⟨0, 3⟩ ⟨3, 1⟩)) := (Parser.parse?_eq hts).trans (by decide)
  obtain ⟨hbounds, hends⟩ := cursors_stay_in_bounds hrule
  obtain ⟨-, htrailing, -⟩ := hends l ", ,n"
  exact ⟨hrule, hp, (hbounds ts 1 hp).2, hparse, (htrailing _ _ _).1 hparse⟩

end Grammar

end Descent
