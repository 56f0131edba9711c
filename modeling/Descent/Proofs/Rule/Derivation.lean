import Mathlib.Data.List.Forall2
import Descent.Proofs.Rule.Cases
import Descent.Proofs.Rule.Graph
import Descent.Proofs.Rule.Stretch

/-!
# Rules as a context-free grammar

Read without order, cuts, names and values, a rule is an expression of a context-free grammar over
kinds of tokens: a choice is any of its alternatives, an option may be left out, looking ahead is
the empty word, a reference is what it refers to. `Grammar.Derives` is that reading; nothing in it
speaks of cursors or of runs.

A run knows more than this grammar: it prefers, commits itself and looks ahead. But it never takes
what the grammar does not derive. `Consumer.Takes` says which words a consumer can take, with one
lemma for each combinator, and `Grammar.derives_of_success` follows by induction on the depth of a
run: the tokens between the two cursors of a success, all of them and in order, are derived from the
rule.
-/

namespace Descent

/-! ## The grammar -/

/-- The words of kinds that can be derived from a rule. -/
inductive Grammar.Derives {κ ν : Type} (g : Grammar κ ν) : Rule κ ν → List κ → Prop
  | tokens (kinds : List κ) (build : List (Token κ) → Except String ν) :
    Derives g (.tokens kinds build) kinds
  | sequence {parts : List (Rule κ ν)} {words : List (List κ)} (build : List ν → Except String ν) :
    List.Forall₂ (Derives g) parts words → Derives g (.sequence parts build) words.flatten
  | choice {alternatives : List (Rule κ ν)} {alternative : Rule κ ν} {word : List κ} :
    alternative ∈ alternatives → Derives g alternative word → Derives g (.choice alternatives) word
  | present {body : Rule κ ν} {word : List κ} (wrap : Option ν → ν) :
    Derives g body word → Derives g (.optional body wrap) word
  | absent (body : Rule κ ν) (wrap : Option ν → ν) : Derives g (.optional body wrap) []
  | lookahead (body : Rule κ ν) : Derives g (.lookahead body) []
  | list {item : Rule κ ν} {words : List (List κ)} (delimiter : κ) (wrap : List ν → ν) :
    words ≠ [] → (∀ word ∈ words, Derives g item word) →
      Derives g (.list item delimiter wrap) ([delimiter].intercalate words)
  | cut {body : Rule κ ν} {word : List κ} : Derives g body word → Derives g (.cut body) word
  | label {body : Rule κ ν} {word : List κ} (name : String) :
    Derives g body word → Derives g (.label name body) word
  | map {body : Rule κ ν} {word : List κ} (f : ν → ν) :
    Derives g body word → Derives g (.map f body) word
  | ref {body : Rule κ ν} {word : List κ} {id : Nat} :
    g.definition? id = some body → Derives g body word → Derives g (.ref id) word

namespace Stretch

variable {κ : Type} {ts seg : List (Token κ)} {p q : Cursor}

/-- Some tokens from a cursor on, if there are as many. -/
theorem take_drop {p n : Nat} (h : p + n ≤ ts.length) :
    Stretch ts p ((ts.drop p).take n) (p + n) := by
  induction n generalizing p with
  | zero => rfl
  | succ n ih =>
    have hp : p < ts.length := by omega
    rw [List.drop_eq_getElem_cons hp, List.take_succ_cons]
    refine ⟨List.getElem?_eq_getElem hp, ?_⟩
    rw [Nat.add_comm n 1, ← Nat.add_assoc]
    exact ih (by omega)

/-- A stretch is what stands between its cursors. -/
theorem eq_take_drop (h : Stretch ts p seg q) : seg = (ts.drop p).take (q - p) := by
  have hlength : q - p = seg.length := by rw [h.eq_add]; exact Nat.add_sub_cancel_left p _
  rw [← h.append_drop, hlength, List.take_left]

/-- Only a stretch of no tokens lies behind the last token. -/
theorem le_max (h : Stretch ts p seg q) : q ≤ max p ts.length := by
  have hq := h.eq_add
  have hlength := congrArg List.length h.append_drop
  rw [List.length_append, List.length_drop, List.length_drop] at hlength
  grind

end Stretch

/-! ## What consumers take -/

namespace Consumer

variable {κ α β γ : Type}

/-- Whether a consumer that succeeds has taken the tokens between its two cursors, and their kinds
are a word of some kind. -/
def Takes (c : Consumer κ α) (Word : List κ → Prop) : Prop :=
  ∀ ts p s value, c ts p = some s → s.outcome = .ok value →
    ∃ taken, Stretch ts p taken s.cursor ∧ Word (taken.map (·.kind))

variable {Word Word' : List κ → Prop}

/-- The words that a list of items with delimiters between them takes. -/
def Delimited (delimiter : κ) (Word : List κ → Prop) (word : List κ) : Prop :=
  ∃ words, words ≠ [] ∧ (∀ w ∈ words, Word w) ∧ word = [delimiter].intercalate words

theorem delimited_singleton {delimiter : κ} {word : List κ} (h : Word word) :
    Delimited delimiter Word word := by
  refine ⟨[word], List.cons_ne_nil _ _, List.forall_mem_singleton.2 h, ?_⟩
  rw [List.intercalate_singleton]

theorem delimited_cons {delimiter : κ} {word rest : List κ} (h : Word word)
    (hrest : Delimited delimiter Word rest) :
    Delimited delimiter Word (word ++ delimiter :: rest) := by
  obtain ⟨words, hne, hwords, rfl⟩ := hrest
  refine ⟨word :: words, List.cons_ne_nil _ _, List.forall_mem_cons.2 ⟨h, hwords⟩, ?_⟩
  rw [List.intercalate_cons_of_ne_nil hne]
  simp

namespace Takes

variable {part : Consumer κ α}

theorem never (Word : List κ → Prop) : Takes (fun _ _ => none : Consumer κ α) Word :=
  fun _ _ _ _ h => nomatch h

theorem imp (himp : ∀ word, Word word → Word' word) (h : Takes part Word) : Takes part Word' := by
  intro ts p s value hs hok
  obtain ⟨taken, hstretch, hword⟩ := h ts p s value hs hok
  exact ⟨taken, hstretch, himp _ hword⟩

/-- What takes tokens does not go back. -/
theorem le_cursor (h : Takes part Word) {ts : List (Token κ)} {p : Cursor} {s : Step κ α}
    {value : α} (hs : part ts p = some s) (hok : s.outcome = .ok value) : p ≤ s.cursor := by
  obtain ⟨taken, hstretch, -⟩ := h ts p s value hs hok
  exact hstretch.le

theorem tokens [DecidableEq κ] (kinds : List κ) (build : List (Token κ) → Except String α) :
    Takes (Consumer.tokens kinds build) (· = kinds) := by
  intro ts p s value h hok
  obtain ⟨hp, hkinds, ⟨v, -, rfl⟩ | ⟨message, -, rfl⟩⟩ | ⟨-, rfl⟩ := tokens_cases h
  · have hlength : ((ts.drop p).take kinds.length).length = kinds.length := by
      rw [← List.length_map (·.kind), hkinds]
    have hall : p + kinds.length ≤ ts.length := by
      rw [List.length_take, List.length_drop] at hlength
      grind
    exact ⟨_, Stretch.take_drop hall, hkinds⟩
  · nomatch hok
  · nomatch hok

/-- Each part takes a word of its own, and the words stand side by side. -/
theorem inOrder {f : γ → Consumer κ α} {Word : γ → List κ → Prop} {xs : List γ}
    (h : ∀ x ∈ xs, Takes (f x) (Word x)) :
    Takes (Consumer.inOrder (xs.map f)) fun word =>
      ∃ words, List.Forall₂ Word xs words ∧ word = words.flatten := by
  induction xs with
  | nil =>
    intro ts p s value hs hok
    obtain rfl := Option.some.inj hs
    exact ⟨[], rfl, [], .nil, rfl⟩
  | cons x xs ih =>
    intro ts p s value hs hok
    obtain ⟨t, ht, ⟨_, -, rfl⟩ | ⟨v, u, hv, hu, rfl⟩⟩ := inOrder_cons_cases hs
    · nomatch hok
    · obtain ⟨first, hfirst, hword⟩ := h x List.mem_cons_self ts p t v ht hv
      cases ho : u.outcome with
      | error failure =>
        simp only [ho] at hok
        nomatch hok
      | ok vs =>
        have hrest := ih fun y hy => h y (List.mem_cons_of_mem x hy)
        obtain ⟨rest, hstretch, words, hwords, heq⟩ := hrest ts t.cursor u vs hu ho
        refine ⟨first ++ rest, stretch_append_iff.2 ⟨t.cursor, hfirst, hstretch⟩,
          first.map (·.kind) :: words, .cons hword hwords, ?_⟩
        rw [List.map_append, heq, List.flatten_cons]

theorem sequence {parts : List (Consumer κ α)} (build : List α → Except String β)
    (h : Takes (Consumer.inOrder parts) Word) : Takes (Consumer.sequence parts build) Word := by
  intro ts p s value hs hok
  obtain ⟨t, ht, ⟨_, -, rfl⟩ | ⟨values, hv, ⟨v, -, rfl⟩ | ⟨message, -, rfl⟩⟩⟩ := sequence_cases hs
  · nomatch hok
  · exact h ts p t values ht hv
  · nomatch hok

theorem choice (policy : ErrorPolicy) {alternatives : List (Consumer κ α)}
    (h : ∀ alternative ∈ alternatives, Takes alternative Word) :
    Takes (Consumer.choice policy alternatives) Word := by
  -- every alternative starts at the same cursor, whatever those before it have left behind
  suffices hfrom : ∀ ts p index best s value,
      choiceFrom policy ts p index best alternatives = some s → s.outcome = .ok value →
        ∃ taken, Stretch ts p taken s.cursor ∧ Word (taken.map (·.kind)) from
    fun ts p => hfrom ts p 0 none
  intro ts p
  induction alternatives with
  | nil =>
    intro index best s value hs hok
    obtain rfl := Option.some.inj hs
    nomatch hok
  | cons alternative rest ih =>
    intro index best s value hs hok
    obtain ⟨t, ht, ⟨v, hv, rfl⟩ | ⟨e, -, rfl⟩ | ⟨e, u, -, hu, rfl⟩⟩ := choiceFrom_cons_cases hs
    · exact h alternative List.mem_cons_self ts p _ v ht hv
    · nomatch hok
    · exact ih (fun a ha => h a (List.mem_cons_of_mem _ ha)) (index + 1) _ u value hu hok

theorem optional (h : Takes part Word) :
    Takes (Consumer.optional part) fun word => Word word ∨ word = [] := by
  intro ts p s value hs hok
  obtain ⟨t, ht, ⟨v, hv, rfl⟩ | ⟨_, _, -, rfl⟩⟩ := optional_cases hs
  · obtain ⟨taken, hstretch, hword⟩ := h ts p t v ht hv
    exact ⟨taken, hstretch, Or.inl hword⟩
  · exact ⟨[], rfl, Or.inr rfl⟩

/-- Looking ahead takes nothing. -/
theorem lookahead (part : Consumer κ α) : Takes (Consumer.lookahead part) (· = []) := by
  intro ts p s value hs hok
  obtain ⟨t, -, rfl⟩ := Option.map_eq_some_iff.1 hs
  exact ⟨[], rfl, rfl⟩

theorem cut (h : Takes part Word) : Takes (Consumer.cut part) Word := by
  intro ts p s value hs hok
  obtain ⟨t, ht, ⟨v, hv, rfl⟩ | ⟨failure, -, rfl⟩⟩ := cut_cases hs
  · exact h ts p t v ht hv
  · nomatch hok

theorem map (f : α → β) (h : Takes part Word) : Takes (Consumer.map f part) Word := by
  intro ts p s value hs hok
  obtain ⟨t, ht, ⟨v, hv, rfl⟩ | ⟨failure, -, rfl⟩⟩ := map_cases hs
  · exact h ts p t v ht hv
  · nomatch hok

theorem named (name : String) (h : Takes part Word) : Takes (Consumer.named name part) Word := by
  intro ts p s value hs hok
  obtain ⟨t, ht, hcursor, ⟨v, hv, -⟩ | ⟨e, -, -, hf⟩ | ⟨e, -, -, hf⟩ | ⟨e, -, hf⟩⟩ :=
    named_cases hs
  · obtain ⟨taken, hstretch, hword⟩ := h ts p t v ht hv
    rw [hcursor]
    exact ⟨taken, hstretch, hword⟩
  all_goals
    rw [hf] at hok
    nomatch hok

theorem undefined (Word : List κ → Prop) : Takes (Consumer.undefined : Consumer κ α) Word := by
  intro ts p s value hs hok
  obtain rfl := Option.some.inj hs
  nomatch hok

/-! ### Lists -/

theorem itemsFrom [DecidableEq κ] (delimiter : κ) (h : Takes part Word) (ts : List (Token κ))
    (fuel count : Nat) {p : Cursor} {s : Step κ (List α)} {values : List α}
    (hs : Consumer.itemsFrom part delimiter ts fuel count p = some s)
    (hok : s.outcome = .ok values) :
    ∃ taken, Stretch ts p taken s.cursor ∧ Delimited delimiter Word (taken.map (·.kind)) := by
  induction fuel generalizing count p s values with
  | zero => nomatch hs
  | succ fuel ih =>
    obtain ⟨t, ht, ⟨_, _, -, rfl⟩ | ⟨v, hv, ⟨hd, u, hu, rfl⟩ | ⟨-, rfl⟩⟩⟩ := itemsFrom_cases hs
    · nomatch hok
    · -- an item, its delimiter, and the items of the later rounds
      obtain ⟨first, hfirst, hword⟩ := h ts p t v ht hv
      obtain ⟨token, htoken, hkind⟩ := any_kind_iff.1 hd
      cases ho : u.outcome with
      | error failure =>
        simp only [ho] at hok
        nomatch hok
      | ok vs =>
        obtain ⟨rest, hrest, hwords⟩ := ih (count + 1) hu ho
        refine ⟨first ++ token :: rest, stretch_append_iff.2 ⟨t.cursor, hfirst, htoken, hrest⟩, ?_⟩
        rw [List.map_append, List.map_cons, hkind]
        exact delimited_cons hword hwords
    · obtain ⟨taken, hstretch, hword⟩ := h ts p t v ht hv
      exact ⟨taken, hstretch, delimited_singleton hword⟩

theorem list [DecidableEq κ] (delimiter : κ) (h : Takes part Word) :
    Takes (Consumer.list part delimiter) (Delimited delimiter Word) := by
  intro ts p s values hs hok
  obtain ⟨t, ht, ⟨vs, hvs, rfl⟩ | ⟨_, -, rfl⟩⟩ := list_cases hs
  · exact itemsFrom (s := t) delimiter h ts _ 0 ht hvs
  · nomatch hok

end Takes

end Consumer

/-! ## Runs -/

namespace Grammar

open Consumer (Takes)

variable {κ ν : Type} [DecidableEq κ] {g : Grammar κ ν}

theorem takes_run (fuel : Nat) {rule : Rule κ ν} (hrule : g.Composed rule) :
    Takes (g.run fuel rule) (g.Derives rule) := by
  -- on the fuel and not on the rule, since a reference leads to another rule
  induction fuel generalizing rule with
  | zero => exact .never _
  | succ fuel ih =>
    cases rule with
    | tokens kinds build =>
      refine (Takes.tokens kinds build).imp fun word hword => ?_
      rw [hword]
      exact .tokens kinds build
    | sequence parts build =>
      have hparts := Takes.inOrder fun part hpart => ih (hrule.of_mem hpart)
      refine (hparts.sequence build).imp ?_
      rintro _ ⟨words, hwords, rfl⟩
      exact .sequence build hwords
    | choice alternatives =>
      refine .choice g.policy fun c hc => ?_
      obtain ⟨alternative, ha, rfl⟩ := List.mem_map.1 hc
      exact (ih (hrule.of_mem ha)).imp fun word hword => .choice ha hword
    | optional body wrap =>
      have hbody := ih (hrule.of_mem (List.mem_singleton_self body))
      refine .map wrap (hbody.optional.imp ?_)
      rintro word (hword | rfl)
      · exact .present wrap hword
      · exact .absent body wrap
    | lookahead body =>
      refine (Takes.lookahead (g.run fuel body)).imp fun word hword => ?_
      rw [hword]
      exact .lookahead body
    | list item delimiter wrap =>
      have hitem := ih (hrule.of_mem (List.mem_singleton_self item))
      refine .map wrap ((hitem.list delimiter).imp ?_)
      rintro _ ⟨words, hne, hwords, rfl⟩
      exact .list delimiter wrap hne hwords
    | cut body =>
      have hbody := ih (hrule.of_mem (List.mem_singleton_self body))
      exact hbody.cut.imp fun word hword => .cut hword
    | label name body =>
      have hbody := ih (hrule.of_mem (List.mem_singleton_self body))
      exact (hbody.named name).imp fun word hword => .label name hword
    | map f body =>
      have hbody := ih (hrule.of_mem (List.mem_singleton_self body))
      exact (hbody.map f).imp fun word hword => .map f hword
    | ref id =>
      simp only [run]
      cases hd : g.definition? id with
      | none => exact .undefined _
      | some body =>
        have hbody := ih (hrule.of_mem (mem_parts_ref hd))
        exact hbody.imp fun word hword => .ref hd hword
    | raw consume => exact absurd rfl (hrule.ne_raw consume)

/-- A run that succeeds does not go back, and it takes no more tokens than there are; the kinds of
all tokens between its two cursors are a word that is derived from the rule. -/
theorem derives_of_success {rule : Rule κ ν} (hrule : g.Composed rule) {fuel : Nat}
    {ts : List (Token κ)} {p : Cursor} {s : Step κ ν} {value : ν}
    (hs : g.run fuel rule ts p = some s) (hok : s.outcome = .ok value) :
    p ≤ s.cursor ∧ s.cursor ≤ max p ts.length ∧
      g.Derives rule (((ts.drop p).take (s.cursor - p)).map (·.kind)) := by
  obtain ⟨taken, hstretch, hword⟩ := takes_run fuel hrule ts p s value hs hok
  rw [hstretch.eq_take_drop] at hword
  exact ⟨hstretch.le, hstretch.le_max, hword⟩

/-- Brackets with nothing or items in them, an item being `n` or a pair of brackets again. The
second option of `[[],n]` is left out although looking ahead has seen its bracket. -/
theorem derives_of_success_nested :
    let mark : Char → Rule Char Nat := fun kind => .token kind fun _ => .ok 0
    let items : Rule Char Nat := .list (.choice [.ref 0, mark 'n']) ',' fun _ => 0
    let g : Grammar Char Nat :=
      ⟨[some (.sequence [mark '[', .lookahead (.optional (mark ']') fun _ => 0),
        .optional items fun _ => 0, mark ']'] fun _ => .ok 0)], .furthest⟩
    let ts : List (Token Char) := ['[', '[', ']', ',', 'n', ']'].map fun kind =>
      ⟨kind, kind.toString, ⟨.start, .start⟩, 0⟩
    g.Composed (.ref 0) ∧
      ∃ s, g.run 13 (.ref 0) ts 0 = some s ∧ s.outcome = .ok 0 ∧ s.cursor = 6 ∧
        g.Derives (.ref 0) ['[', '[', ']', ',', 'n', ']'] := by
  intro mark items g ts
  have hrule : g.Composed (.ref 0) := composed_of_isPlain rfl rfl
  have hrun : (g.run 13 (.ref 0) ts 0).map (fun s => (s.outcome.toOption, s.cursor))
      = some (some 0, 6) := by decide
  obtain ⟨s, hs, hend⟩ := Option.map_eq_some_iff.1 hrun
  obtain ⟨hvalue, hcursor⟩ := Prod.mk.inj hend
  have hok : s.outcome = .ok 0 := by
    cases ho : s.outcome with
    | error failure => rw [ho] at hvalue; nomatch hvalue
    | ok value => rw [ho] at hvalue; exact congrArg Except.ok (Option.some.inj hvalue)
  obtain ⟨-, -, hword⟩ := derives_of_success hrule hs hok
  rw [hcursor] at hword
  exact ⟨hrule, s, hs, hok, hcursor, hword⟩

end Grammar

end Descent
