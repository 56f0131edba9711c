import Descent.Error.Report
import Descent.Proofs.Lexer.Order
import Descent.Proofs.Rule.Failure

/-!
# What a name says of a failure

A rule with a name that fails ordinarily at the very token where it was entered says that the name
was expected there; if it has come further, or if it cuts, it hands on what the rule inside says
(`Failure.relabel`). To tell whether the two tokens are the same it compares their positions only.
This is enough for the tokens of a text, which ascend: the position of an error belongs to one of
them alone, or to the end of them all (`ParseError.IsAt.position_eq_iff`).

The error by which a name replaces another one is at the same token. So the next name around it
replaces it again (`Failure.relabel_relabel`), and of several names, with maps and references
between them, only the outermost one is reported (`Grammar.Wraps.endsWith_error_iff`).
-/

namespace Descent

variable {κ ν : Type} {ts : List (Token κ)} {p q : Cursor} {name : String} {e : ParseError}
  {failure : Failure}

/-! ## Errors at the entry -/

theorem getElem?_min_length (ts : List (Token κ)) (p : Cursor) : ts[min p ts.length]? = ts[p]? := by
  rcases Nat.le_total p ts.length with h | h
  · rw [Nat.min_eq_left h]
  · rw [Nat.min_eq_right h, List.getElem?_eq_none (Nat.le_refl _), List.getElem?_eq_none h]

namespace ParseError

/-- Whether an error says that something with a name was expected at a cursor, and what was found
there. -/
def Expects (e : ParseError) (name : String) (ts : List (Token κ)) (p : Cursor) : Prop :=
  e.IsAt ts p ∧ e.reason.message =
    ts[p]?.elim ("expected " ++ name ++ ", found end of input")
      fun t => "expected " ++ name ++ ", found '" ++ t.value ++ "'"

theorem expects_expected (name : String) (ts : List (Token κ)) (p : Cursor) :
    (Consumer.expected name ts p).Expects name ts p := by
  refine ⟨isAt_located _ ts p, ?_⟩
  rw [Consumer.expected, located]
  cases ts[p]? <;> rfl

/-- Whether an error is at the token where a rule was entered can be told by positions. -/
theorem IsAt.isEntryError_iff (h : e.IsAt ts q) (hts : Ascending ts) (hq : q ≤ ts.length)
    (p : Cursor) : Consumer.isEntryError e ts p = true ↔ q = min p ts.length := by
  rw [Consumer.isEntryError, beq_iff_eq, ← getElem?_min_length ts p,
    h.position_eq_iff hts hq (Nat.min_le_right p _), eq_comm]

end ParseError

namespace Failure

open Consumer (isEntryError expected)

/-- What a name, given to a rule that is run from a cursor, makes of a failure of the rule. -/
def relabel (name : String) (ts : List (Token κ)) (p : Cursor) : Failure → Failure
  | backtrack e => backtrack (if isEntryError e ts p then expected name ts p else e)
  | cut e => cut e

theorem relabel_of_isEntryError (h : isEntryError e ts p = true) :
    (backtrack e).relabel name ts p = backtrack (expected name ts p) := by
  rw [relabel, if_pos h]

theorem relabel_of_not_isEntryError (h : ¬isEntryError e ts p = true) :
    (backtrack e).relabel name ts p = backtrack e := by
  rw [relabel, if_neg h]

/-- An outer name stands for an inner one. -/
theorem relabel_relabel (outer inner : String) (ts : List (Token κ)) (p : Cursor)
    (failure : Failure) :
    (failure.relabel inner ts p).relabel outer ts p = failure.relabel outer ts p := by
  cases failure with
  | cut e => rfl
  | backtrack e =>
    by_cases h : isEntryError e ts p = true
    · have hinner : isEntryError (expected inner ts p) ts p = true := beq_self_eq_true _
      rw [relabel_of_isEntryError h, relabel_of_isEntryError hinner, relabel_of_isEntryError h]
    · rw [relabel_of_not_isEntryError h]

end Failure

namespace Consumer

variable {α : Type} {part : Consumer κ α}

theorem error_iff_of_named {s : Step κ α} (hs : named name part ts p = some s) :
    ∃ t, part ts p = some t ∧ s.cursor = t.cursor ∧ ∀ failure, s.outcome = .error failure ↔
      ∃ failure', t.outcome = .error failure' ∧ failure'.relabel name ts p = failure := by
  obtain ⟨t, ht, hcursor, hcases⟩ := named_cases hs
  refine ⟨t, ht, hcursor, fun failure => ?_⟩
  obtain ⟨v, hv, ho⟩ | ⟨e, he, hentry, ho⟩ | ⟨e, he, hentry, ho⟩ | ⟨e, he, ho⟩ := hcases
  · simp [hv, ho]
  · simp [he, ho, Failure.relabel, hentry]
  · simp [he, ho, Failure.relabel, hentry]
  · simp [he, ho, Failure.relabel]

end Consumer

/-! ## Names, maps and references -/

namespace Grammar

variable [DecidableEq κ] {g : Grammar κ ν} {body rule outer : Rule κ ν}
  {outermost? : Option String}

theorem endsWith_label_error_iff : g.EndsWith ts (.label name body, p) (.error failure) q ↔
    ∃ failure', g.EndsWith ts (body, p) (.error failure') q ∧
      failure'.relabel name ts p = failure := by
  constructor
  · rintro ⟨s, hs, ho, rfl⟩
    obtain ⟨n, hs⟩ := hs.exists_run_succ
    obtain ⟨t, ht, hcursor, herror⟩ := Consumer.error_iff_of_named hs
    obtain ⟨failure', hf, hrelabel⟩ := (herror failure).1 ho
    exact ⟨failure', ⟨t, ⟨n, ht⟩, hf, hcursor.symm⟩, hrelabel⟩
  · rintro ⟨failure', ⟨t, ⟨n, ht⟩, hf, rfl⟩, hrelabel⟩
    obtain ⟨s, hs⟩ : ∃ s, g.run (n + 1) (.label name body) ts p = some s :=
      ⟨_, by rw [run, Consumer.named, ht, Option.map_some]⟩
    obtain ⟨t', ht', hcursor, herror⟩ := Consumer.error_iff_of_named hs
    obtain rfl := Option.some.inj (ht.symm.trans ht')
    exact ⟨s, ⟨n + 1, hs⟩, (herror failure).2 ⟨failure', hf, hrelabel⟩, hcursor⟩

/-- To give a rule a name relabels its failures, also if it had a name before. -/
theorem endsWith_named_error_iff : g.EndsWith ts (rule.named name, p) (.error failure) q ↔
    ∃ failure', g.EndsWith ts (rule, p) (.error failure') q ∧
      failure'.relabel name ts p = failure := by
  cases rule with
  | label inner body =>
    rw [Rule.named, endsWith_label_error_iff]
    constructor
    · rintro ⟨failure', hbody, rfl⟩
      exact ⟨_, endsWith_label_error_iff.2 ⟨failure', hbody, rfl⟩,
        failure'.relabel_relabel name inner ts p⟩
    · rintro ⟨_, hlabel, rfl⟩
      obtain ⟨failure', hbody, rfl⟩ := endsWith_label_error_iff.1 hlabel
      exact ⟨failure', hbody, (failure'.relabel_relabel name inner ts p).symm⟩
  | _ => exact endsWith_label_error_iff

theorem endsWith_map_error_iff {f : ν → ν} :
    g.EndsWith ts (.map f body, p) (.error failure) q ↔
      g.EndsWith ts (body, p) (.error failure) q := by
  constructor
  · rintro ⟨s, hs, ho, rfl⟩
    obtain ⟨n, hs⟩ := hs.exists_run_succ
    obtain ⟨t, ht, ⟨v, -, rfl⟩ | ⟨failure', hf, rfl⟩⟩ := Consumer.map_cases hs
    · nomatch ho
    · exact ⟨t, ⟨n, ht⟩, hf.trans ho, rfl⟩
  · rintro ⟨t, ⟨n, ht⟩, ho, rfl⟩
    refine ⟨⟨t.outcome.map f, t.cursor, t.log⟩, ⟨n + 1, ?_⟩, by rw [ho]; rfl, rfl⟩
    rw [run, Consumer.map, ht, Option.map_some]

theorem endsWith_ref_iff {id : Nat} {o : Except Failure ν} (hd : g.definition? id = some body) :
    g.EndsWith ts (.ref id, p) o q ↔ g.EndsWith ts (body, p) o q := by
  constructor
  · rintro ⟨s, hs, ho, hq⟩
    obtain ⟨n, hs⟩ := hs.exists_run_succ
    rw [run, hd] at hs
    exact ⟨s, ⟨n, hs⟩, ho, hq⟩
  · rintro ⟨s, ⟨n, hs⟩, ho, hq⟩
    refine ⟨s, ⟨n + 1, ?_⟩, ho, hq⟩
    rw [run, hd]
    exact hs

/-- A failure of a composed rule is at the token where the rule was entered or further on, the end
of the tokens counted as one more. -/
theorem exists_isAt (hbody : g.Composed body) (h : g.EndsWith ts (body, p) (.error failure) q) :
    ∃ j, min p ts.length ≤ j ∧ j ≤ ts.length ∧ failure.error.IsAt ts j := by
  obtain ⟨s, hs, hf, -⟩ := h
  obtain ⟨i, hi⟩ := exists_arises (c := (body, p)) hbody hs hf
  have hle : p ≤ i := (hi.bounds hbody).1
  refine ⟨min i ts.length, by grind, Nat.min_le_right i _, ?_⟩
  rw [ParseError.IsAt, getElem?_min_length]
  exact hi.isAt

/-- Whether a rule is another one with names, maps and references around it, and what the outermost
name is, if there are any. -/
inductive Wraps (g : Grammar κ ν) (core : Rule κ ν) : Option String → Rule κ ν → Prop
  | core : Wraps g core none core
  | named {outermost? : Option String} {rule : Rule κ ν} (name : String) :
    Wraps g core outermost? rule → Wraps g core (some name) (rule.named name)
  | map {outermost? : Option String} {rule : Rule κ ν} (f : ν → ν) :
    Wraps g core outermost? rule → Wraps g core outermost? (.map f rule)
  | ref {outermost? : Option String} {rule : Rule κ ν} {id : Nat} :
    g.definition? id = some rule → Wraps g core outermost? rule → Wraps g core outermost? (.ref id)

/-- Only the outermost name makes something of a failure. -/
theorem Wraps.endsWith_error_iff (h : g.Wraps body outermost? outer) :
    g.EndsWith ts (outer, p) (.error failure) q ↔
      ∃ failure', g.EndsWith ts (body, p) (.error failure') q ∧
        outermost?.elim failure' (failure'.relabel · ts p) = failure := by
  induction h generalizing failure with
  | core => simp only [Option.elim_none, exists_eq_right]
  | @named outermost? rule name _ ih =>
    have hname (failure' : Failure) :
        (outermost?.elim failure' (failure'.relabel · ts p)).relabel name ts p =
          failure'.relabel name ts p := by
      cases outermost? with
      | none => rfl
      | some inner => exact failure'.relabel_relabel name inner ts p
    rw [endsWith_named_error_iff]
    constructor
    · rintro ⟨_, hrule, rfl⟩
      obtain ⟨failure', hbody, rfl⟩ := ih.1 hrule
      exact ⟨failure', hbody, (hname failure').symm⟩
    · rintro ⟨failure', hbody, rfl⟩
      exact ⟨_, ih.2 ⟨failure', hbody, rfl⟩, hname failure'⟩
  | map f _ ih => rw [endsWith_map_error_iff, ih]
  | ref hd _ ih => rw [endsWith_ref_iff hd, ih]

/-- A name says that it was expected where a composed rule fails ordinarily at the token of the text
at which it was entered, or at the end if it was entered there, and leaves every other failure as it
is: those further on, which the position of the error tells, and cuts. With any names, maps and
references around the rule, the outermost name is the one expected. -/
theorem names_relabel_entry_failures {l : Lexer κ} {source : String} (hbody : g.Composed body)
    (htokens : l.tokenize source = .ok ts) (p : Cursor) (name : String) :
    (∀ e q, g.EndsWith ts (body, p) (.error (.backtrack e)) q →
      ∃ j, min p ts.length ≤ j ∧ j ≤ ts.length ∧ e.IsAt ts j ∧
        (∀ i ≤ ts.length, e.position = ts[i]?.map (·.location.start) → i = j) ∧
        ∃ e', g.EndsWith ts (.label name body, p) (.error (.backtrack e')) q ∧
          (j = min p ts.length → e'.Expects name ts p) ∧ (min p ts.length < j → e' = e)) ∧
    (∀ e q, g.EndsWith ts (body, p) (.error (.cut e)) q →
      g.EndsWith ts (.label name body, p) (.error (.cut e)) q) ∧
    ∀ outermost? outer, g.Wraps body outermost? outer → ∀ e q,
      g.EndsWith ts (body, p) (.error (.backtrack e)) q → e.IsAt ts p →
        ∃ e', g.EndsWith ts (outer, p) (.error (.backtrack e')) q ∧
          outermost?.elim (e' = e) (e'.Expects · ts p) := by
  have hts : Ascending ts := Lexer.ascending_of_tokenize htokens
  refine ⟨fun e q h => ?_, fun e q h => ?_, fun outermost? outer houter e q h hplace => ?_⟩
  · obtain ⟨j, hpj, hj, (hplace : e.IsAt ts j)⟩ := exists_isAt hbody h
    have hentry := hplace.isEntryError_iff hts hj p
    refine ⟨j, hpj, hj, hplace, fun i hi => (hplace.position_eq_iff hts hj hi).1, ?_⟩
    refine ⟨_, endsWith_label_error_iff.2 ⟨_, h, rfl⟩, fun hat => ?_, fun hfurther => ?_⟩
    · rw [if_pos (hentry.2 hat)]
      exact ParseError.expects_expected name ts p
    · exact if_neg fun h => hfurther.ne' (hentry.1 h)
  · exact endsWith_label_error_iff.2 ⟨_, h, rfl⟩
  · have hentry : Consumer.isEntryError e ts p = true := beq_iff_eq.2 hplace.1
    cases outermost? with
    | none => exact ⟨e, houter.endsWith_error_iff.2 ⟨_, h, rfl⟩, rfl⟩
    | some outermost =>
      refine ⟨Consumer.expected outermost ts p, houter.endsWith_error_iff.2 ⟨_, h, ?_⟩,
        ParseError.expects_expected outermost ts p⟩
      exact Failure.relabel_of_isEntryError hentry

/-- A pair that gets behind its first token and one that does not. -/
theorem names_relabel_entry_failures_pair :
    let defs : List (TokenDef String) := [⟨"a", "a", false⟩, ⟨"b", "b", false⟩, ⟨"gap", " +", true⟩]
    let l := Lexer.ofDefs defs
    let ts : List (Token String) :=
      [⟨"a", "a", ⟨⟨0, 0⟩, ⟨0, 1⟩⟩, 0⟩, ⟨"b", "b", ⟨⟨0, 2⟩, ⟨0, 3⟩⟩, 2⟩]
    let mark : String → Rule String Nat := fun kind => .token kind fun _ => .ok 0
    let pair : Rule String Nat := .choice [.sequence [mark "a", mark "c"] fun _ => .ok 1, mark "d"]
    let g : Grammar String Nat := ⟨[some (.label "inner" pair)], .furthest⟩
    let outer : Rule String Nat := (Rule.map (· + 1) (.ref 0)).named "outer"
    let e : ParseError := ⟨.unmatched "b", some ⟨0, 2⟩, some ⟨2, 1⟩⟩
    Lexer.build defs = .ok l ∧ l.tokenize "a b" = .ok ts ∧ g.Composed pair ∧
      g.EndsWith ts (.label "pair" pair, 0) (.error (.backtrack e)) 0 ∧
      ∃ e', g.EndsWith ts (outer, 1) (.error (.backtrack e')) 1 ∧
        e'.reason.message = "expected outer, found 'b'" ∧ e'.position = some ⟨0, 2⟩ := by
  intro defs l ts mark pair g outer e
  have htokens : l.tokenize "a b" = .ok ts := by decide
  have hpair : g.Composed pair := composed_of_isPlain rfl rfl
  have hbehind : g.EndsWith ts (pair, 0) (.error (.backtrack e)) 0 := ⟨_, ⟨4, rfl⟩, rfl, rfl⟩
  have hentry : g.EndsWith ts (pair, 1) (.error (.backtrack e)) 1 := ⟨_, ⟨4, rfl⟩, rfl, rfl⟩
  have hinner : g.Wraps pair (some "inner") (.ref 0) := .ref rfl (.named "inner" .core)
  have houter : g.Wraps pair (some "outer") outer := .named "outer" (.map _ hinner)
  obtain ⟨hfirst, -, -⟩ := names_relabel_entry_failures hpair htokens 0 "pair"
  obtain ⟨-, -, hsecond⟩ := names_relabel_entry_failures hpair htokens 1 "pair"
  obtain ⟨j, -, -, -, hunique, e₁, hends, -, hfurther⟩ := hfirst e 0 hbehind
  obtain rfl : 1 = j := hunique 1 (by decide) rfl
  obtain rfl : e₁ = e := hfurther (by decide)
  obtain ⟨e₂, hends', hplace, hmessage⟩ := hsecond _ outer houter e 1 hentry ⟨rfl, rfl⟩
  exact ⟨by decide, htokens, hpair, hends, e₂, hends', hmessage, hplace.1⟩

end Grammar

end Descent
