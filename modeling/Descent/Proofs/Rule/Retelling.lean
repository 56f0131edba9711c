import Descent.Proofs.Lexer.Lexemes
import Descent.Proofs.Parse
import Descent.Proofs.Rule.Alike
import Descent.Proofs.Rule.Termination

/-!
# Tokens that say the same elsewhere

Rules report the places of tokens in their errors and do nothing else with them. So if the rules of
a grammar make values of nothing but the kinds and texts of tokens (`Rule.Textual`), two token lists
with the same kinds and texts are parsed alike: both with the same value, or neither with any
(`Parser.exists_parse?_of_lexemes`).
-/

namespace Descent

variable {κ ν : Type}

/-- Whether a rule makes values of nothing but the kinds and texts of tokens. -/
inductive Rule.Textual : Rule κ ν → Prop
  | tokens (kinds : List κ) {build : List (Token κ) → Except String ν}
    (h : ∀ run run', run.map Token.lexeme = run'.map Token.lexeme → build run = build run') :
    Textual (.tokens kinds build)
  | sequence {parts : List (Rule κ ν)} (build : List ν → Except String ν)
    (h : ∀ part ∈ parts, Textual part) : Textual (.sequence parts build)
  | choice {alternatives : List (Rule κ ν)}
    (h : ∀ alternative ∈ alternatives, Textual alternative) : Textual (.choice alternatives)
  | optional {body : Rule κ ν} (wrap : Option ν → ν) (h : Textual body) :
    Textual (.optional body wrap)
  | lookahead {body : Rule κ ν} (h : Textual body) : Textual (.lookahead body)
  | list {item : Rule κ ν} (delimiter : κ) (wrap : List ν → ν) (h : Textual item) :
    Textual (.list item delimiter wrap)
  | cut {body : Rule κ ν} (h : Textual body) : Textual (.cut body)
  | label (name : String) {body : Rule κ ν} (h : Textual body) : Textual (.label name body)
  | map (f : ν → ν) {body : Rule κ ν} (h : Textual body) : Textual (.map f body)
  | ref (id : Nat) : Textual (.ref id)

/-- Whether all definitions of a grammar do so. -/
def Grammar.Textual (g : Grammar κ ν) : Prop :=
  ∀ id body, g.definition? id = some body → body.Textual

theorem Rule.Textual.token (kind : κ) {build : Token κ → Except String ν}
    (h : ∀ t t' : Token κ, t.lexeme = t'.lexeme → build t = build t') :
    (Rule.token kind build).Textual := by
  refine .tokens [kind] fun run run' hrun => ?_
  cases run with
  | nil =>
    obtain rfl := List.map_eq_nil_iff.1 hrun.symm
    rfl
  | cons t run =>
    obtain ⟨t', run', rfl, ht, -⟩ := List.map_eq_cons_iff.1 hrun.symm
    exact h t t' ht.symm

theorem kinds_eq_of_lexemes {ts ts' : List (Token κ)}
    (hts : ts.map Token.lexeme = ts'.map Token.lexeme) : ts.map (·.kind) = ts'.map (·.kind) := by
  have hfst := congrArg (List.map Prod.fst) hts
  rwa [List.map_map, List.map_map] at hfst

theorem length_eq_of_lexemes {ts ts' : List (Token κ)}
    (hts : ts.map Token.lexeme = ts'.map Token.lexeme) : ts.length = ts'.length := by
  simpa only [List.length_map] using congrArg List.length hts

/-! ## Runs -/

namespace Consumer

variable {α γ : Type} {ts ts' : List (Token κ)} {c d : Consumer κ α}

/-- Whether a second consumer ends over some tokens wherever a first one does over others, with the
same value at the same cursor, or with the same kind of failure there. -/
abbrev EndsOver (ts ts' : List (Token κ)) (c d : Consumer κ α) : Prop :=
  FollowsOver (fun _ _ => True) ts ts' c d

namespace EndsOver

theorem choiceFrom {f g : γ → Consumer κ α} {xs : List γ}
    (h : ∀ x ∈ xs, EndsOver ts ts' (f x) (g x)) (policy : ErrorPolicy) (p : Cursor) (index : Nat)
    (best other : Option ParseError) :
    Leads (Step.EndsAlike fun _ _ => True)
      (Consumer.choiceFrom policy ts p index best (xs.map f))
      (Consumer.choiceFrom policy ts' p index other (xs.map g)) := by
  induction xs generalizing index best other with
  | nil => exact .ends ⟨rfl, .backtrack trivial⟩
  | cons x xs ih =>
    obtain ⟨hx, hxs⟩ := List.forall_mem_cons.1 h
    refine (hx p).bind ?_
    rintro ⟨o, q, log⟩ ⟨o', _, log'⟩ ⟨rfl, halike⟩
    cases halike with
    | ok value => exact .ends ⟨rfl, .ok value⟩
    | cut he => exact .ends ⟨rfl, .cut trivial⟩
    | @backtrack e e' he =>
      exact (ih hxs (index + 1) (some (furtherOf best e)) (some (furtherOf other e'))).map
        fun s t hst => hst

theorem named (name : String) (h : EndsOver ts ts' c d) :
    EndsOver ts ts' (Consumer.named name c) (Consumer.named name d) := by
  intro p
  refine (h p).map ?_
  rintro ⟨o, q, _⟩ ⟨o', _, _⟩ ⟨rfl, halike⟩
  cases halike with
  | ok value => exact ⟨rfl, .ok value⟩
  | cut he => exact ⟨rfl, .cut trivial⟩
  | @backtrack e e' he =>
    -- either error may or may not be at the first token
    simp only
    split <;> split <;> exact ⟨rfl, .backtrack trivial⟩

theorem tokens [DecidableEq κ] (hts : ts.map Token.lexeme = ts'.map Token.lexeme) (kinds : List κ)
    {build : List (Token κ) → Except String α}
    (h : ∀ run run', run.map Token.lexeme = run'.map Token.lexeme → build run = build run') :
    EndsOver ts ts' (Consumer.tokens kinds build) (Consumer.tokens kinds build) := by
  intro p
  have hrun : ((ts.drop p).take kinds.length).map Token.lexeme
      = ((ts'.drop p).take kinds.length).map Token.lexeme := by
    rw [List.map_take, List.map_drop, hts, ← List.map_drop, ← List.map_take]
  simp only [Consumer.tokens, length_eq_of_lexemes hts, kinds_eq_of_lexemes hrun, h _ _ hrun]
  split
  · split
    · exact .ends ⟨rfl, .ok _⟩
    · exact .ends ⟨rfl, .backtrack trivial⟩
  · exact .ends ⟨rfl, .backtrack trivial⟩

end EndsOver

end Consumer

namespace Grammar

open Consumer (EndsOver FollowsOver)

variable [DecidableEq κ] {g : Grammar κ ν} {rule : Rule κ ν} {ts ts' : List (Token κ)}

/-- A textual rule ends alike over tokens that say the same. -/
theorem endsOver_run (hg : g.Textual) (hts : ts.map Token.lexeme = ts'.map Token.lexeme)
    (fuel : Nat) (hrule : rule.Textual) : EndsOver ts ts' (g.run fuel rule) (g.run fuel rule) := by
  have hkinds := kinds_eq_of_lexemes hts
  induction fuel generalizing rule with
  | zero => nofun
  | succ fuel ih =>
    cases hrule with
    | tokens kinds h => exact .tokens hts kinds h
    | sequence build h =>
      refine FollowsOver.sequence build (fun _ _ => trivial) (.inOrder fun part hpart => ?_)
      exact ih (h part hpart)
    | choice h =>
      exact fun p => EndsOver.choiceFrom (fun a ha => ih (h a ha)) g.policy p 0 none none
    | optional wrap h => exact (ih h).optional.map wrap
    | lookahead h => exact (ih h).lookahead
    | list delimiter wrap h => exact ((ih h).list hkinds delimiter).map wrap
    | cut h => exact (ih h).cut
    | label name h => exact (ih h).named name
    | map f h => exact (ih h).map f
    | ref id =>
      simp only [run]
      cases hd : g.definition? id with
      | none => exact fun p => .ends ⟨rfl, .cut trivial⟩
      | some body => exact ih (hg id body hd)

/-- A rule ends from every cursor if definitions nest less deep in place than references to them are
said to. -/
theorem exists_consume_of_leftDepth (hrule : g.Composed rule) (depths : Nat → Nat)
    (hdepths : ∀ id body, g.definition? id = some body → body.leftDepth depths < depths id)
    (ts : List (Token κ)) (p : Cursor) : ∃ s, g.consume rule ts p = some s := by
  refine (exists_consume_iff hrule).2 ?_
  rintro ⟨d, hcalls, hround⟩
  obtain hlt | ⟨-, hcycle⟩ := lt_or_inPlace_of_calls hround (hrule.of_calls hcalls)
  · exact Nat.lt_irrefl _ hlt
  · exact not_inPlace_self hdepths d.1 hcycle

end Grammar

/-! ## Whole parses -/

/-- Whether two results are the same value, or errors of whatever kind. -/
inductive SameValue : Except Error ν → Except Error ν → Prop
  | ok (value : ν) : SameValue (.ok value) (.ok value)
  | error (e other : Error) : SameValue (.error e) (.error other)

theorem SameValue.map {μ : Type} (f : ν → μ) {r r' : Except Error ν} (h : SameValue r r') :
    SameValue (r.map f) (r'.map f) := by
  cases h with
  | ok value => exact .ok (f value)
  | error e other => exact .error e other

namespace Parser

variable [DecidableEq κ] {P : Parser κ ν} {source source' : String} {ts ts' : List (Token κ)}

omit [DecidableEq κ] in
theorem sameValue_conclude (hlength : ts.length = ts'.length) {s t : Step κ ν}
    (h : s.EndsAlike (fun _ _ => True) t) :
    SameValue (conclude ts s).result (conclude ts' t).result := by
  obtain ⟨o, q, log⟩ := s
  obtain ⟨o', _, log'⟩ := t
  obtain ⟨rfl, halike⟩ := h
  cases halike with
  | ok value =>
    rw [conclude, conclude]
    by_cases hq : q < ts.length
    · rw [List.getElem?_eq_getElem hq, List.getElem?_eq_getElem (hlength ▸ hq)]
      exact .error _ _
    · have hq' := Nat.le_of_not_lt hq
      rw [List.getElem?_eq_none hq', List.getElem?_eq_none (hlength ▸ hq')]
      exact .ok value
  | backtrack _ => exact .error _ _
  | cut _ => exact .error _ _

/-- Texts whose tokens say the same are parsed to the same value, or not at all. -/
theorem exists_parse?_of_lexemes (hg : P.grammar.Textual) (hroot : P.root.Textual)
    (hends : ∀ ts, ∃ s, P.grammar.consume P.root ts .start = some s)
    (hts : P.lexer.tokenize source = .ok ts) (hts' : P.lexer.tokenize source' = .ok ts')
    (hlexemes : ts'.map Token.lexeme = ts.map Token.lexeme) :
    ∃ r r', P.parse? source = some r ∧ P.parse? source' = some r' ∧ SameValue r r' := by
  obtain ⟨s, hs⟩ := hends ts
  have hfuel : P.grammar.fuelFor P.root ts = P.grammar.fuelFor P.root ts' := by
    rw [Grammar.fuelFor, Grammar.fuelFor, length_eq_of_lexemes hlexemes]
  obtain ⟨t, ht, halike⟩ := P.grammar.endsOver_run hg hlexemes.symm _ hroot .start s hs
  rw [hfuel] at ht
  refine ⟨_, _, ?_, ?_, sameValue_conclude (length_eq_of_lexemes hlexemes.symm) halike⟩
  · rw [parse?_eq hts, hs, Option.map_some]
  · rw [parse?_eq hts', Grammar.consume, ht, Option.map_some]

end Parser

end Descent
