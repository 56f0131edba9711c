import Descent.Proofs.Rule.Circles

/-!
# Rules do not look behind their cursor

A run looks at tokens at cursors only, and every cursor in it is counted on from the one at which it
was entered. So it makes no difference how many tokens lie before that one, or which: with the same
tokens ahead a run does the same, further on by the number of tokens before
(`Consumer.LooksForward`). Every combinator hands this on from its parts to the whole. A list also
has to be sure that its rounds suffice, of which it takes one more than there are tokens; they do,
since an item that matches does not go back.

`Grammar.consume_eq_ahead` is the result for composed rules. Raw rules may look wherever they like.
-/

namespace Descent

variable {κ α β : Type}

/-! ## Ends further on -/

/-- The same note, made behind some more tokens. Only notes about named rules tell cursors. -/
def Event.moved (count : Nat) : Event κ → Event κ
  | trying name cursor => trying name (count + cursor)
  | matched name first last => matched name (count + first) (count + last)
  | missed name cursor => missed name (count + cursor)
  | event => event

/-- The same end behind some more tokens: value or failure are the same. -/
def Step.moved (count : Nat) (s : Step κ α) : Step κ α :=
  ⟨s.outcome, count + s.cursor, s.log.map (Event.moved count)⟩

@[simp] theorem Step.moved_outcome (count : Nat) (s : Step κ α) :
    (s.moved count).outcome = s.outcome := rfl

@[simp] theorem Step.moved_cursor (count : Nat) (s : Step κ α) :
    (s.moved count).cursor = count + s.cursor := rfl

@[simp] theorem Step.moved_log (count : Nat) (s : Step κ α) :
    (s.moved count).log = s.log.map (Event.moved count) := rfl

theorem Step.moved_ok (count : Nat) (value : α) (p : Cursor) :
    (Step.ok value p : Step κ α).moved count = .ok value (count + p) := rfl

theorem Step.moved_fail (count : Nat) (failure : Failure) (p : Cursor) :
    (Step.fail failure p : Step κ α).moved count = .fail failure (count + p) := rfl

theorem Step.moved_after (count : Nat) (notes : List (Event κ)) (s : Step κ α) :
    (s.after notes).moved count = (s.moved count).after (notes.map (Event.moved count)) := by
  rw [after, moved, List.map_append, after, moved]

theorem Step.moved_note (count : Nat) (s : Step κ α) (event : Event κ) :
    (s.note event).moved count = (s.moved count).note (event.moved count) := by
  rw [note, moved, List.map_append, List.map_singleton, note, moved]

namespace Consumer

variable {before behind : List (Token κ)} {p : Cursor}

/-! ## What stands at a cursor -/

theorem getElem?_behind (before behind : List (Token κ)) (p : Cursor) :
    (before ++ behind)[before.length + p]? = behind[p]? := by
  rw [List.getElem?_append_right (Nat.le_add_right before.length p), Nat.add_sub_cancel_left]

theorem unexpected_behind (before behind : List (Token κ)) (p : Cursor) :
    ParseError.unexpected (before ++ behind) (before.length + p)
      = ParseError.unexpected behind p := by
  rw [ParseError.unexpected, getElem?_behind, ParseError.unexpected]

theorem mismatch_behind (before behind : List (Token κ)) (p : Cursor) (count : Nat) :
    mismatch (before ++ behind) (before.length + p) count = mismatch behind p count := by
  rw [mismatch, getElem?_behind, List.drop_length_add_append, mismatch]

theorem exhausted_behind (policy : ErrorPolicy) (best : Option ParseError)
    (before behind : List (Token κ)) (p : Cursor) :
    exhausted policy best (before ++ behind) (before.length + p)
      = exhausted policy best behind p := by
  unfold exhausted
  rw [unexpected_behind]

theorem isEntryError_behind (e : ParseError) (before behind : List (Token κ)) (p : Cursor) :
    isEntryError e (before ++ behind) (before.length + p) = isEntryError e behind p := by
  rw [isEntryError, getElem?_behind, isEntryError]

theorem expected_behind (name : String) (before behind : List (Token κ)) (p : Cursor) :
    expected name (before ++ behind) (before.length + p) = expected name behind p := by
  rw [expected, getElem?_behind, expected]

/-! ## Combinators -/

/-- Whether a consumer does behind any tokens what it does without them. -/
def LooksForward (c : Consumer κ α) : Prop :=
  ∀ before behind p,
    c (before ++ behind) (before.length + p) = (c behind p).map (Step.moved before.length)

namespace LooksForward

variable {c : Consumer κ α}

theorem tokens [DecidableEq κ] (kinds : List κ) (build : List (Token κ) → Except String α) :
    LooksForward (Consumer.tokens kinds build) := by
  intro before behind p
  have hlength : before.length + p ≤ (before ++ behind).length ↔ p ≤ behind.length := by
    rw [List.length_append, Nat.add_le_add_iff_left]
  simp only [Consumer.tokens, hlength, List.drop_length_add_append, getElem?_behind,
    mismatch_behind]
  split
  · cases build ((behind.drop p).take kinds.length) with
    | ok value =>
      rw [Option.map_some, Step.moved_ok, Cursor.advance, Cursor.advance, Nat.add_assoc]
    | error message => rfl
  · rfl

theorem inOrder {parts : List (Consumer κ α)} (h : ∀ part ∈ parts, LooksForward part) :
    LooksForward (Consumer.inOrder parts) := by
  induction parts with
  | nil => exact fun _ _ _ => rfl
  | cons part parts ih =>
    obtain ⟨hpart, hparts⟩ := List.forall_mem_cons.1 h
    intro before behind p
    rw [Consumer.inOrder, Consumer.inOrder, hpart, Option.bind_map, Option.map_bind]
    refine Option.bind_congr fun s _ => ?_
    cases ho : s.outcome with
    | error failure => simp only [Function.comp, Step.moved, ho, Option.map_some]
    | ok value =>
      simp only [Function.comp, Step.moved_outcome, Step.moved_cursor, Step.moved_log, ho,
        ih hparts before behind s.cursor, Option.map_map]
      refine Option.map_congr fun t _ => ?_
      simp only [Function.comp, Step.moved, List.map_append]

theorem sequence {parts : List (Consumer κ α)} (h : ∀ part ∈ parts, LooksForward part)
    (build : List α → Except String β) : LooksForward (Consumer.sequence parts build) := by
  intro before behind p
  rw [Consumer.sequence, Consumer.sequence, inOrder h, Option.map_map, Option.map_map]
  refine Option.map_congr fun s _ => ?_
  cases ho : s.outcome with
  | error failure => simp only [Function.comp, Step.moved, ho]
  | ok values =>
    cases hb : build values with
    | ok value => simp only [Function.comp, Step.moved, ho, hb]
    | error message => simp only [Function.comp, Step.moved, ho, hb, getElem?_behind]

theorem choiceFrom {alternatives : List (Consumer κ α)}
    (h : ∀ alternative ∈ alternatives, LooksForward alternative) (policy : ErrorPolicy)
    (before behind : List (Token κ)) (p : Cursor) (index : Nat) (best : Option ParseError) :
    Consumer.choiceFrom policy (before ++ behind) (before.length + p) index best alternatives
      = (Consumer.choiceFrom policy behind p index best alternatives).map
          (Step.moved before.length) := by
  induction alternatives generalizing index best with
  | nil =>
    rw [Consumer.choiceFrom, exhausted_behind, Consumer.choiceFrom, Option.map_some,
      Step.moved_fail]
  | cons alternative rest ih =>
    obtain ⟨halternative, hrest⟩ := List.forall_mem_cons.1 h
    rw [Consumer.choiceFrom, Consumer.choiceFrom, halternative, Option.bind_map, Option.map_bind]
    refine Option.bind_congr fun s _ => ?_
    cases ho : s.outcome with
    | ok value => simp only [Function.comp, Step.moved, ho, Option.map_some]
    | error failure =>
      cases failure with
      | cut e =>
        simp only [Function.comp, Step.moved, ho, Option.map_some, List.map_append, List.map_cons,
          List.map_nil, Event.moved]
      | backtrack e =>
        -- the errors so far are the same, so the furthest of them is the same
        simp only [Function.comp, Step.moved_outcome, Step.moved_log, ho, ih hrest, Option.map_map]
        refine Option.map_congr fun t _ => ?_
        simp only [Function.comp, Step.moved_after, List.map_append, List.map_singleton,
          Event.moved]

theorem choice {alternatives : List (Consumer κ α)}
    (h : ∀ alternative ∈ alternatives, LooksForward alternative) (policy : ErrorPolicy) :
    LooksForward (Consumer.choice policy alternatives) :=
  fun before behind p => choiceFrom h policy before behind p 0 none

theorem optional (h : LooksForward c) : LooksForward (Consumer.optional c) := by
  intro before behind p
  rw [Consumer.optional, Consumer.optional, h, Option.map_map, Option.map_map]
  refine Option.map_congr fun s _ => ?_
  cases ho : s.outcome with
  | ok value => simp only [Function.comp, Step.moved, ho]
  | error failure =>
    cases failure <;>
      simp only [Function.comp, Step.moved, ho, List.map_append, List.map_cons, List.map_nil,
        Event.moved]

theorem lookahead (h : LooksForward c) : LooksForward (Consumer.lookahead c) := by
  intro before behind p
  rw [Consumer.lookahead, Consumer.lookahead, h, Option.map_map, Option.map_map]
  rfl

theorem cut (h : LooksForward c) : LooksForward (Consumer.cut c) := by
  intro before behind p
  rw [Consumer.cut, Consumer.cut, h, Option.map_map, Option.map_map]
  rfl

theorem map (f : α → β) (h : LooksForward c) : LooksForward (Consumer.map f c) := by
  intro before behind p
  rw [Consumer.map, Consumer.map, h, Option.map_map, Option.map_map]
  rfl

theorem named (name : String) (h : LooksForward c) : LooksForward (Consumer.named name c) := by
  intro before behind p
  rw [Consumer.named, Consumer.named, h, Option.map_map, Option.map_map]
  refine Option.map_congr fun s _ => ?_
  cases ho : s.outcome with
  | ok value =>
    simp only [Function.comp, Step.moved_outcome, Step.moved_cursor, Step.moved_after,
      Step.moved_note, ho, List.map_singleton, Event.moved]
  | error failure =>
    cases failure with
    | cut e =>
      simp only [Function.comp, Step.moved_outcome, Step.moved_after, Step.moved_note, ho,
        List.map_singleton, Event.moved]
    | backtrack e =>
      simp only [Function.comp, Step.moved_outcome, Step.moved_after, ho, isEntryError_behind,
        expected_behind, List.map_singleton, Event.moved]
      split
      · simp only [Step.moved, List.map_append, List.map_singleton, Event.moved]
      · simp only [Step.moved_note, Event.moved]

theorem undefined : LooksForward (Consumer.undefined : Consumer κ α) := by
  intro before behind p
  rw [Consumer.undefined, getElem?_behind, Consumer.undefined, Option.map_some, Step.moved_fail]

variable [DecidableEq κ] {Word : List κ → Prop}

/-- Both runs have rounds enough, though not equally many: a round ends behind a delimiter, of which
there are no more than tokens ahead. -/
theorem itemsFrom (h : LooksForward c) (htakes : Takes c Word) (delimiter : κ)
    (before behind : List (Token κ)) {m n : Nat} (count : Nat) {p : Nat}
    (hm : behind.length - p < m) (hn : behind.length - p < n) :
    Consumer.itemsFrom c delimiter (before ++ behind) m count (before.length + p)
      = (Consumer.itemsFrom c delimiter behind n count p).map (Step.moved before.length) := by
  induction m generalizing n count p with
  | zero => exact absurd hm (Nat.not_lt_zero _)
  | succ m ih =>
    obtain ⟨n, rfl⟩ := Nat.exists_eq_succ_of_ne_zero (Nat.ne_zero_of_lt hn)
    rw [Consumer.itemsFrom, Consumer.itemsFrom, h, Option.bind_map, Option.map_bind]
    refine Option.bind_congr fun s hs => ?_
    cases ho : s.outcome with
    | error failure =>
      by_cases hcount : count = 0
      · simp only [Function.comp, Step.moved, ho, if_pos hcount, Option.map_some]
      · simp only [Function.comp, Step.moved, ho, if_neg hcount, Option.map_some, List.map_append,
          List.map_cons, List.map_nil, Event.moved]
    | ok value =>
      simp only [Function.comp, Step.moved_outcome, Step.moved_cursor, Step.moved_log, ho,
        getElem?_behind]
      by_cases hd : ((behind[s.cursor]?).any fun token => token.kind = delimiter) = true
      · have hforward : p ≤ s.cursor := htakes.le_cursor hs ho
        have hbound : s.cursor < behind.length := (any_kind_iff.1 hd).lt
        have hshorter {k : Nat} (hk : behind.length - p < k + 1) :
            behind.length - (s.cursor + 1) < k := by grind
        have hrest := ih (count + 1) (hshorter hm) (hshorter hn)
        simp only [if_pos hd, Cursor.advance, Nat.add_assoc, hrest, Option.map_map]
        refine Option.map_congr fun t _ => ?_
        simp only [Function.comp, Step.moved, List.map_append]
      · simp only [if_neg hd, Option.map_some, Step.moved]

theorem list (h : LooksForward c) (htakes : Takes c Word) (delimiter : κ) :
    LooksForward (Consumer.list c delimiter) := by
  intro before behind p
  have hm : behind.length - p < (before ++ behind).length + 1 := by
    rw [List.length_append]
    omega
  have hn : behind.length - p < behind.length + 1 := by omega
  rw [Consumer.list, Consumer.list, itemsFrom h htakes delimiter before behind 0 hm hn,
    Option.map_map, Option.map_map]
  refine Option.map_congr fun s _ => ?_
  cases ho : s.outcome <;> simp only [Function.comp, Step.moved, ho]

end LooksForward

end Consumer

namespace Grammar

open Consumer (LooksForward)

variable {ν : Type} [DecidableEq κ] {g : Grammar κ ν} {rule : Rule κ ν}

/-! ## Rules -/

theorem looksForward_run (fuel : Nat) (hrule : g.Composed rule) :
    LooksForward (g.run fuel rule) := by
  induction fuel generalizing rule with
  | zero => exact fun _ _ _ => rfl
  | succ fuel ih =>
    have hpart {part : Rule κ ν} (hmem : part ∈ g.parts rule) : LooksForward (g.run fuel part) :=
      ih (hrule.of_mem hmem)
    cases rule with
    | tokens kinds build => exact .tokens kinds build
    | sequence parts build =>
      exact .sequence (List.forall_mem_map.2 fun part hmem => hpart hmem) build
    | choice alternatives =>
      exact .choice (List.forall_mem_map.2 fun alternative hmem => hpart hmem) g.policy
    | optional body wrap => exact .map wrap (.optional (hpart (List.mem_singleton_self body)))
    | lookahead body => exact .lookahead (hpart (List.mem_singleton_self body))
    | list item delimiter wrap =>
      have hmem : item ∈ g.parts (.list item delimiter wrap) := List.mem_singleton_self item
      exact .map wrap (.list (hpart hmem) (takes_run fuel (hrule.of_mem hmem)) delimiter)
    | cut body => exact .cut (hpart (List.mem_singleton_self body))
    | label name body => exact .named name (hpart (List.mem_singleton_self body))
    | map f body => exact .map f (hpart (List.mem_singleton_self body))
    | ref id =>
      rw [run]
      cases hd : g.definition? id with
      | none => exact .undefined
      | some body => exact hpart (mem_parts_ref hd)
    | raw consume => exact absurd rfl (hrule.ne_raw consume)

/-- The tokens before the cursor also make no difference to whether a run ends. -/
theorem looksForward_consume (hrule : g.Composed rule) : LooksForward (g.consume rule) := by
  intro before behind p
  -- with enough fuel for both
  let fuel := max (g.fuelFor rule (before ++ behind)) (g.fuelFor rule behind)
  have hconsume {ts : List (Token κ)} (q : Cursor) (hfuel : g.fuelFor rule ts ≤ fuel) :
      g.consume rule ts q = g.run fuel rule ts q := by
    refine Option.ext fun s => ?_
    exact ⟨fun hs => run_mono hfuel hs, fun hs => (consume_eq_some_iff hrule).2 ⟨fuel, hs⟩⟩
  rw [hconsume _ (Nat.le_max_left _ _), hconsume _ (Nat.le_max_right _ _)]
  exact looksForward_run fuel hrule before behind p

/-- The run of a composed rule from a cursor is that on the tokens from there on alone, further on
by the tokens before. Whatever these are, it succeeds with the same value or fails with the same
failure, or else never ends. -/
theorem consume_eq_ahead (hrule : g.Composed rule) :
    (∀ ts p, p ≤ ts.length →
      g.consume rule ts p = (g.consume rule (ts.drop p) 0).map (Step.moved p)) ∧
    ∀ before others behind,
      (g.consume rule (before ++ behind) before.length).map Step.outcome
        = (g.consume rule (others ++ behind) others.length).map Step.outcome ∧
      (before.length = others.length →
        g.consume rule (before ++ behind) before.length
          = g.consume rule (others ++ behind) others.length) := by
  have hbehind (before behind : List (Token κ)) :
      g.consume rule (before ++ behind) before.length
        = (g.consume rule behind 0).map (Step.moved before.length) :=
    looksForward_consume hrule before behind 0
  refine ⟨fun ts p hp => ?_, fun before others behind => ⟨?_, fun hlength => ?_⟩⟩
  · have hcut := hbehind (ts.take p) (ts.drop p)
    rwa [List.take_append_drop, List.length_take_of_le hp] at hcut
  · rw [hbehind, hbehind, Option.map_map, Option.map_map]
    rfl
  · rw [hbehind, hbehind, hlength]

/-- Behind a delimiter a list complains about the next token, whatever comes before the list. -/
theorem consume_eq_ahead_list :
    let mark : Char → Rule Char Nat := fun kind => .token kind fun _ => .ok 1
    let items : Rule Char Nat :=
      .label "items" (.list (.choice [mark 'a', mark 'b']) ',' List.length)
    let g : Grammar Char Nat := ⟨[some items], .furthest⟩
    let ts : List (Token Char) :=
      [⟨'x', "x", ⟨⟨0, 7⟩, ⟨0, 8⟩⟩, 7⟩, ⟨'a', "a", ⟨⟨0, 0⟩, ⟨0, 1⟩⟩, 0⟩,
        ⟨',', ",", ⟨⟨0, 1⟩, ⟨0, 2⟩⟩, 1⟩, ⟨'x', "x", ⟨⟨0, 2⟩, ⟨0, 3⟩⟩, 2⟩]
    g.Composed (.ref 0) ∧ 1 ≤ ts.length ∧
      (g.consume (.ref 0) (ts.drop 1) 0).map (fun s => (s.outcome, s.cursor))
        = some (.error (.cut ⟨.unmatched "x", some ⟨0, 2⟩, some ⟨2, 1⟩⟩), 0) ∧
      g.consume (.ref 0) ts 1 = (g.consume (.ref 0) (ts.drop 1) 0).map (Step.moved 1) ∧
      (g.consume (.ref 0) ts 1).map Step.outcome
        = (g.consume (.ref 0) (ts.drop 1) 0).map Step.outcome := by
  intro mark items g ts
  have hrule : g.Composed (.ref 0) := composed_of_isPlain rfl rfl
  obtain ⟨hdrop, hreplace⟩ := consume_eq_ahead hrule
  have hlength : 1 ≤ ts.length := by decide
  exact ⟨hrule, hlength, by decide, hdrop ts 1 hlength,
    (hreplace (ts.take 1) [] (ts.drop 1)).1⟩

end Grammar

end Descent
