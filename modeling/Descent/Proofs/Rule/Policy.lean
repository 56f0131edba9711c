import Mathlib.Data.List.Forall2
import Descent.Proofs.Parse
import Descent.Proofs.Lexer.Order
import Descent.Proofs.Rule.Alike
import Descent.Proofs.Rule.Failure

/-!
# The error policy only changes errors

The policy of a grammar says which error a choice reports when all its alternatives have failed. No
rule looks at an error to decide how to go on, so two runs of a rule, one under either policy, go
hand in hand: `Grammar.mirrors_run` follows them through all combinators. A name does look at the
position of an error, but only to find other words for an error at that very position.

What the runs disagree on is where they complain. The entry policy points to the token at which the
choice was made, and over the tokens of a text no alternative fails before that token
(`Grammar.failsBehind_run`); so the furthest policy never points to an earlier place.

`Grammar.policies_agree` has all of it, for runs and for whole parses.
-/

namespace Descent

variable {κ α β γ : Type}

/-! ## Runs that end alike -/

/-- Whether an error is not before another one, if the tokens ascend. -/
def NotBefore (ts : List (Token κ)) (e other : ParseError) : Prop :=
  Ascending ts → e.site ≤ other.site

theorem NotBefore.refl (ts : List (Token κ)) (e : ParseError) : NotBefore ts e e := fun _ => le_rfl

/-- Whether two runs over some tokens end at the same cursor and alike, the error of the second not
before that of the first. -/
def Step.Mirrors (ts : List (Token κ)) (s t : Step κ α) : Prop :=
  s.cursor = t.cursor ∧ Alike (NotBefore ts) s.outcome t.outcome

theorem Step.Mirrors.refl (ts : List (Token κ)) (s : Step κ α) : s.Mirrors ts s :=
  ⟨rfl, .refl (NotBefore.refl ts) s.outcome⟩

namespace Consumer

/-- Whether two consumers end alike wherever they are called, or else both do not end. -/
def Mirrors (c d : Consumer κ α) : Prop := ∀ ts p, Option.Rel (Step.Mirrors ts) (c ts p) (d ts p)

namespace Mirrors

theorem option_map {R : α → α → Prop} {S : β → β → Prop} {f g : α → β} {x y : Option α}
    (h : Option.Rel R x y) (hfg : ∀ a b, R a b → S (f a) (g b)) :
    Option.Rel S (x.map f) (y.map g) := by
  cases h with
  | none => exact .none
  | some hab => exact .some (hfg _ _ hab)

theorem option_bind {R : α → α → Prop} {S : β → β → Prop} {f g : α → Option β} {x y : Option α}
    (h : Option.Rel R x y)
    (hfg : ∀ a b, x = some a → y = some b → R a b → Option.Rel S (f a) (g b)) :
    Option.Rel S (x.bind f) (y.bind g) := by
  cases h with
  | none => exact .none
  | some hab => exact hfg _ _ rfl rfl hab

theorem isSome_eq {R : α → β → Prop} {x : Option α} {y : Option β} (h : Option.Rel R x y) :
    x.isSome = y.isSome := by
  cases h with
  | none => rfl
  | some _ => rfl

theorem of_eq_some {R : α → β → Prop} {x : Option α} {y : Option β} {a : α} {b : β}
    (h : Option.Rel R x y) (hx : x = some a) (hy : y = some b) : R a b := by
  rw [hx, hy] at h
  cases h with
  | some hab => exact hab

theorem option_symm {R : α → β → Prop} {S : β → α → Prop} {x : Option α} {y : Option β}
    (h : Option.Rel R x y) (hab : ∀ a b, R a b → S b a) : Option.Rel S y x := by
  cases h with
  | none => exact .none
  | some h => exact .some (hab _ _ h)

theorem refl (c : Consumer κ α) : Mirrors c c := by
  intro ts p
  cases c ts p with
  | none => exact .none
  | some s => exact .some (.refl ts s)

variable {c d : Consumer κ α}

/-! Two consumers mirror each other if each follows the other one, so most combinators have been
dealt with. -/

theorem follows (h : Mirrors c d) : Follows NotBefore c d := fun ts p => .of_rel (h ts p)

theorem follows_back (h : Mirrors c d) : Follows (fun ts e other => NotBefore ts other e) d c :=
  fun ts p => .of_rel (option_symm (h ts p) fun _ _ hst => ⟨hst.1.symm, hst.2.symm⟩)

theorem of_follows (h : Follows NotBefore c d)
    (hback : Follows (fun ts e other => NotBefore ts other e) d c) : Mirrors c d :=
  fun ts p => (h ts p).rel (hback ts p)

theorem inOrder {f g : γ → Consumer κ α} {xs : List γ} (h : ∀ x ∈ xs, Mirrors (f x) (g x)) :
    Mirrors (Consumer.inOrder (xs.map f)) (Consumer.inOrder (xs.map g)) :=
  of_follows (.inOrder fun x hx => (h x hx).follows)
    (.inOrder fun x hx => (h x hx).follows_back)

theorem sequence {parts others : List (Consumer κ α)} (build : List α → Except String β)
    (h : Mirrors (Consumer.inOrder parts) (Consumer.inOrder others)) :
    Mirrors (Consumer.sequence parts build) (Consumer.sequence others build) :=
  of_follows (.sequence NotBefore.refl build h.follows)
    (.sequence (by exact NotBefore.refl) build h.follows_back)

/-- The only place where the policies make a difference. The entry policy complains about the token
at the cursor, and no error that the other policy may choose lies before it. -/
theorem choiceFrom {f g : γ → Consumer κ α} {xs : List γ} (h : ∀ x ∈ xs, Mirrors (f x) (g x))
    {ts : List (Token κ)} (hbehind : Ascending ts → ∀ x ∈ xs, FailsBehind (g x) ts) (p : Cursor)
    (index : Nat) (best other : Option ParseError)
    (hother : Ascending ts → ∀ e, other = some e → siteAt ts p ≤ e.site) :
    Option.Rel (Step.Mirrors ts) (Consumer.choiceFrom .entry ts p index best (xs.map f))
      (Consumer.choiceFrom .furthest ts p index other (xs.map g)) := by
  induction xs generalizing index best other with
  | nil =>
    -- all have failed, and only now the policy is asked
    refine .some ⟨rfl, .backtrack fun hts => ?_⟩
    have hentry : (exhausted .entry best ts p).site = siteAt ts p := site_unexpected ts p
    rw [hentry]
    exact FailsBehind.le_site_exhausted .furthest (hother hts)
  | cons x xs ih =>
    obtain ⟨hx, hxs⟩ := List.forall_mem_cons.1 h
    refine option_bind (hx ts p) ?_
    rintro ⟨o, q, log⟩ ⟨o', _, log'⟩ - hd ⟨rfl, halike⟩
    cases halike with
    | ok value => exact .some ⟨rfl, .ok value⟩
    | cut he => exact .some ⟨rfl, .cut he⟩
    | @backtrack e e' he =>
      have hrest : Ascending ts → ∀ y ∈ xs, FailsBehind (g y) ts :=
        fun hts => (List.forall_mem_cons.1 (hbehind hts)).2
      refine option_map (ih hxs hrest (index + 1) (some (furtherOf best e))
        (some (furtherOf other e')) fun hts b hb => ?_) fun s t hst => hst
      have hsite : siteAt ts p ≤ e'.site := hbehind hts x List.mem_cons_self p _ _ hd rfl
      obtain rfl := Option.some.inj hb
      exact FailsBehind.le_site_furtherOf (hother hts) hsite

theorem choice {f g : γ → Consumer κ α} {xs : List γ} (h : ∀ x ∈ xs, Mirrors (f x) (g x))
    (hbehind : ∀ ts, Ascending ts → ∀ x ∈ xs, FailsBehind (g x) ts) :
    Mirrors (Consumer.choice .entry (xs.map f)) (Consumer.choice .furthest (xs.map g)) :=
  fun ts p => choiceFrom h (hbehind ts) p 0 none none fun _ _ he => nomatch he

theorem optional (h : Mirrors c d) : Mirrors (Consumer.optional c) (Consumer.optional d) :=
  of_follows h.follows.optional h.follows_back.optional

theorem lookahead (h : Mirrors c d) : Mirrors (Consumer.lookahead c) (Consumer.lookahead d) :=
  of_follows h.follows.lookahead h.follows_back.lookahead

theorem cut (h : Mirrors c d) : Mirrors (Consumer.cut c) (Consumer.cut d) :=
  of_follows h.follows.cut h.follows_back.cut

theorem map (f : α → β) (h : Mirrors c d) : Mirrors (Consumer.map f c) (Consumer.map f d) :=
  of_follows (h.follows.map f) (h.follows_back.map f)

/-- The words that a name finds for an error. -/
def relabelled (name : String) (ts : List (Token κ)) (p : Cursor) (e : ParseError) : ParseError :=
  if isEntryError e ts p then expected name ts p else e

theorem site_relabelled (name : String) (ts : List (Token κ)) (p : Cursor) (e : ParseError) :
    (relabelled name ts p e).site = e.site := by
  rw [relabelled]
  split
  · next h => exact site_expected_of_isEntryError h
  · rfl

theorem named (name : String) (h : Mirrors c d) :
    Mirrors (Consumer.named name c) (Consumer.named name d) := by
  intro ts p
  refine option_map (h ts p) ?_
  rintro ⟨o, q, _⟩ ⟨o', _, _⟩ ⟨rfl, halike⟩
  cases halike with
  | ok value => exact ⟨rfl, .ok value⟩
  | cut he => exact ⟨rfl, .cut he⟩
  | @backtrack e e' he =>
    have hrelabelled : NotBefore ts (relabelled name ts p e) (relabelled name ts p e') := by
      intro hts
      rw [site_relabelled, site_relabelled]
      exact he hts
    rw [relabelled, relabelled] at hrelabelled
    -- either error may or may not be at the first token
    cases hentry : isEntryError e ts p <;> cases hentry' : isEntryError e' ts p <;>
      simp only [hentry, hentry', if_true, Bool.false_eq_true, if_false] at hrelabelled ⊢ <;>
      exact ⟨rfl, .backtrack hrelabelled⟩

theorem list [DecidableEq κ] (h : Mirrors c d) (delimiter : κ) :
    Mirrors (Consumer.list c delimiter) (Consumer.list d delimiter) :=
  of_follows (h.follows.list delimiter) (h.follows_back.list delimiter)

end Mirrors

end Consumer

/-! ## Rules under either policy -/

namespace Grammar

open Consumer (Mirrors)

variable {ν : Type} {g : Grammar κ ν} {rule : Rule κ ν}

/-- The same definitions under another policy. -/
def withPolicy (g : Grammar κ ν) (policy : ErrorPolicy) : Grammar κ ν := { g with policy }

/-- A policy has no part in the graph of a rule. -/
theorem occurs_of_withPolicy {policy : ErrorPolicy} {leaf : Rule κ ν}
    (h : (g.withPolicy policy).Occurs rule leaf) : g.Occurs rule leaf := by
  induction h with
  | self rule => exact .self rule
  | @part rule part leaf hpart _ ih =>
    have hparts : (g.withPolicy policy).parts rule = g.parts rule := by cases rule <;> rfl
    rw [hparts] at hpart
    exact .part hpart ih

theorem Composed.withPolicy (h : g.Composed rule) (policy : ErrorPolicy) :
    (g.withPolicy policy).Composed rule :=
  fun consume hoccurs => h consume (occurs_of_withPolicy hoccurs)

variable [DecidableEq κ]

/-- The runs of a composed rule under the two policies go hand in hand. -/
theorem mirrors_run (fuel : Nat) (hrule : g.Composed rule) :
    Mirrors ((g.withPolicy .entry).run fuel rule) ((g.withPolicy .furthest).run fuel rule) := by
  -- one fuel for both, so that neither runs out before the other
  induction fuel generalizing rule with
  | zero => exact .refl _
  | succ fuel ih =>
    cases rule with
    | tokens kinds build => exact .refl _
    | sequence parts build =>
      exact .sequence build (.inOrder fun part hpart => ih (hrule.of_mem hpart))
    | choice alternatives =>
      -- the furthest error is chosen among those of the alternatives, all behind the cursor
      refine .choice (fun a ha => ih (hrule.of_mem ha)) fun ts hts a ha => ?_
      exact failsBehind_run hts fuel ((hrule.of_mem ha).withPolicy .furthest)
    | optional body wrap =>
      exact .map wrap (.optional (ih (hrule.of_mem (List.mem_singleton_self body))))
    | lookahead body => exact .lookahead (ih (hrule.of_mem (List.mem_singleton_self body)))
    | list item delimiter wrap =>
      exact .map wrap (.list (ih (hrule.of_mem (List.mem_singleton_self item))) delimiter)
    | cut body => exact .cut (ih (hrule.of_mem (List.mem_singleton_self body)))
    | label name body => exact .named name (ih (hrule.of_mem (List.mem_singleton_self body)))
    | map f body => exact .map f (ih (hrule.of_mem (List.mem_singleton_self body)))
    | ref id =>
      simp only [run]
      have hsame : ∀ policy, (g.withPolicy policy).definition? id = g.definition? id :=
        fun _ => rfl
      rw [hsame, hsame]
      cases hd : g.definition? id with
      | none => exact .refl _
      | some body => exact ih (hrule.of_mem (mem_parts_ref hd))
    | raw consume => exact .refl _

/-- Two ends of a composed rule, one under either policy, with whatever fuel. -/
theorem mirrors_of_run {m n : Nat} {ts : List (Token κ)} {p : Cursor} {s t : Step κ ν}
    (hrule : g.Composed rule) (hs : (g.withPolicy .entry).run m rule ts p = some s)
    (ht : (g.withPolicy .furthest).run n rule ts p = some t) : s.Mirrors ts t := by
  have hs' := run_mono (Nat.le_max_left m n) hs
  have ht' := run_mono (Nat.le_max_right m n) ht
  exact Mirrors.of_eq_some (mirrors_run (max m n) hrule ts p) hs' ht'

/-! ## Whole parses -/

/-- Whether two results of a parse are the same, or both are errors of the root rule, the second not
before the first. -/
def SameUpToError (r r' : Except Error ν) : Prop :=
  r = r' ∨ ∃ e e', r = .error (.parse e) ∧ r' = .error (.parse e') ∧ e.isFurtherThan e' = false

theorem isFurtherThan_eq_false {e other : ParseError} (h : e.site ≤ other.site) :
    e.isFurtherThan other = false := by
  rw [Bool.eq_false_iff, Ne, ParseError.isFurtherThan_iff]
  exact h.not_gt

omit [DecidableEq κ] in
theorem sameUpToError_conclude {ts : List (Token κ)} (hts : Ascending ts) {s t : Step κ ν}
    (h : s.Mirrors ts t) :
    SameUpToError (Parser.conclude ts s).result (Parser.conclude ts t).result := by
  obtain ⟨o, q, log⟩ := s
  obtain ⟨o', _, log'⟩ := t
  obtain ⟨rfl, halike⟩ := h
  cases halike with
  | ok value =>
    refine Or.inl ?_
    rw [Parser.conclude, Parser.conclude]
    cases ts[q]? <;> rfl
  | backtrack he => exact Or.inr ⟨_, _, rfl, rfl, isFurtherThan_eq_false (he hts)⟩
  | cut he => exact Or.inr ⟨_, _, rfl, rfl, isFurtherThan_eq_false (he hts)⟩

theorem sameUpToError_parse? (hrule : g.Composed rule) (l : Lexer κ) (source : String) :
    Option.Rel SameUpToError
      ((⟨l, g.withPolicy .entry, rule⟩ : Parser κ ν).parse? source)
      ((⟨l, g.withPolicy .furthest, rule⟩ : Parser κ ν).parse? source) := by
  let P : ErrorPolicy → Parser κ ν := fun policy => ⟨l, g.withPolicy policy, rule⟩
  cases hts : l.tokenize source with
  | error e =>
    have hparse : ∀ policy, (P policy).parse? source = some (.error (.lex e)) :=
      fun policy => Parser.parse?_of_lexError (P := P policy) hts
    rw [hparse .entry, hparse .furthest]
    exact .some (Or.inl rfl)
  | ok ts =>
    have hparse : ∀ policy, (P policy).parse? source
        = ((g.withPolicy policy).consume rule ts .start).map
            fun s => (Parser.conclude ts s).result :=
      fun policy => Parser.parse?_eq (P := P policy) hts
    rw [hparse .entry, hparse .furthest]
    refine Mirrors.option_map (mirrors_run _ hrule ts .start) fun s t hst => ?_
    exact sameUpToError_conclude (Lexer.ascending_of_tokenize hts) hst

/-- Under the two policies a composed rule ends at the same cursors with the same values, fails in
the same way where it fails, and does not end where it does not end; a parse has the same values,
lexical errors and tokens left over. Over the tokens of a text the error under the furthest policy
is never before the one under the entry policy. -/
theorem policies_agree (hrule : g.Composed rule) :
    (∀ m n ts p s t, (g.withPolicy .entry).run m rule ts p = some s →
      (g.withPolicy .furthest).run n rule ts p = some t →
        s.cursor = t.cursor ∧
          Alike (fun e e' => (∃ (l : Lexer κ) (source : String), l.tokenize source = .ok ts) →
            e.isFurtherThan e' = false) s.outcome t.outcome) ∧
    (∀ fuel ts p, ((g.withPolicy .entry).run fuel rule ts p).isSome
      = ((g.withPolicy .furthest).run fuel rule ts p).isSome) ∧
    ∀ (l : Lexer κ) (source : String),
      Option.Rel SameUpToError
        ((⟨l, g.withPolicy .entry, rule⟩ : Parser κ ν).parse? source)
        ((⟨l, g.withPolicy .furthest, rule⟩ : Parser κ ν).parse? source) := by
  refine ⟨fun m n ts p s t hs ht => ?_, fun fuel ts p => ?_, sameUpToError_parse? hrule⟩
  · obtain ⟨hcursor, halike⟩ := mirrors_of_run hrule hs ht
    refine ⟨hcursor, halike.imp fun e e' h => ?_⟩
    rintro ⟨l, source, hts⟩
    exact isFurtherThan_eq_false (h (l.ascending_of_tokenize hts))
  · exact Mirrors.isSome_eq (mirrors_run fuel hrule ts p)

/-- After the first of two tokens only the furthest policy complains about the second. -/
theorem policies_agree_second_token :
    let mark : String → Rule String Nat := fun kind => .token kind fun _ => .ok 0
    let rule : Rule String Nat :=
      .choice [.sequence [mark "a", mark "b"] fun _ => .ok 0, .label "c" (mark "c")]
    let g : Grammar String Nat := ⟨[], .entry⟩
    let l : Lexer String := .ofDefs [⟨"a", "a", false⟩]
    let e : ParseError := ⟨.unexpectedToken "a", some ⟨0, 0⟩, some ⟨0, 1⟩⟩
    let e' : ParseError := ⟨.unmatched "a", some ⟨0, 1⟩, some ⟨1, 1⟩⟩
    g.Composed rule ∧
      (⟨l, g.withPolicy .entry, rule⟩ : Parser String Nat).parse? "aa" = some (.error (.parse e)) ∧
      (⟨l, g.withPolicy .furthest, rule⟩ : Parser String Nat).parse? "aa"
        = some (.error (.parse e')) ∧
      e.isFurtherThan e' = false := by
  intro mark rule g l e e'
  have hrule : g.Composed rule := composed_of_isPlain rfl rfl
  have hts : l.tokenize "aa"
      = .ok [⟨"a", "a", ⟨⟨0, 0⟩, ⟨0, 1⟩⟩, 0⟩, ⟨"a", "a", ⟨⟨0, 1⟩, ⟨0, 2⟩⟩, 1⟩] := by decide
  have hentry : (⟨l, g.withPolicy .entry, rule⟩ : Parser String Nat).parse? "aa"
      = some (.error (.parse e)) := (Parser.parse?_eq hts).trans (by decide)
  have hfurthest : (⟨l, g.withPolicy .furthest, rule⟩ : Parser String Nat).parse? "aa"
      = some (.error (.parse e')) := (Parser.parse?_eq hts).trans (by decide)
  obtain ⟨-, -, hparse⟩ := policies_agree hrule
  have hsame := Mirrors.of_eq_some (hparse l "aa") hentry hfurthest
  rcases hsame with heq | ⟨_, _, he, he', hnot⟩
  · have hne : e ≠ e' := by decide
    exact absurd (Error.parse.inj (Except.error.inj heq)) hne
  · obtain rfl := Error.parse.inj (Except.error.inj he)
    obtain rfl := Error.parse.inj (Except.error.inj he')
    exact ⟨hrule, hentry, hfurthest, hnot⟩

end Grammar

end Descent
