import Descent.Rule.Consumer

/-!
# What each combinator can do

One lemma for each combinator lists all the ways in which it can end, with the runs of its parts
that lead there. Facts about runs are proved from these lists; the combinators themselves need not
be opened again. Sequences, choices and lists are listed one part, alternative or round at a time.
-/

namespace Descent

theorem map_eq_ok_iff {ε α β : Type} {f : α → β} {x : Except ε α} {b : β} :
    x.map f = .ok b ↔ ∃ a, x = .ok a ∧ f a = b := by
  cases x <;> simp [Except.map]

namespace Step

variable {κ α : Type}

@[simp] theorem after_outcome (notes : List (Event κ)) (s : Step κ α) :
    (s.after notes).outcome = s.outcome := rfl

@[simp] theorem after_cursor (notes : List (Event κ)) (s : Step κ α) :
    (s.after notes).cursor = s.cursor := rfl

@[simp] theorem note_outcome (s : Step κ α) (event : Event κ) :
    (s.note event).outcome = s.outcome := rfl

@[simp] theorem note_cursor (s : Step κ α) (event : Event κ) :
    (s.note event).cursor = s.cursor := rfl

end Step

namespace Consumer

variable {κ α β : Type} {ts : List (Token κ)} {p : Cursor}

/-- The tokens of the kinds asked for are there and make a value, or make none, or are not there. -/
theorem tokens_cases [DecidableEq κ] {kinds : List κ} {build : List (Token κ) → Except String α}
    {s : Step κ α} (h : tokens kinds build ts p = some s) :
    (p ≤ ts.length ∧ ((ts.drop p).take kinds.length).map (·.kind) = kinds ∧
      ((∃ value, build ((ts.drop p).take kinds.length) = .ok value ∧
          s = .ok value (p.advance kinds.length)) ∨
        ∃ message, build ((ts.drop p).take kinds.length) = .error message ∧
          s = .fail (.backtrack (.located (.custom message) ts[p]?)) p)) ∨
    (¬(p ≤ ts.length ∧ ((ts.drop p).take kinds.length).map (·.kind) = kinds) ∧
      s = .fail (.backtrack (mismatch ts p kinds.length)) p) := by
  unfold tokens at h
  simp only at h
  split at h
  · next hk =>
    refine Or.inl ⟨hk.1, hk.2, ?_⟩
    split at h
    · next value hb => exact Or.inl ⟨value, hb, (Option.some.inj h).symm⟩
    · next message hb => exact Or.inr ⟨message, hb, (Option.some.inj h).symm⟩
  · next hk => exact Or.inr ⟨hk, (Option.some.inj h).symm⟩

/-- The first of several consumers fails, or it succeeds and the others go on behind it. -/
theorem inOrder_cons_cases {first : Consumer κ α} {rest : List (Consumer κ α)}
    {s : Step κ (List α)} (h : inOrder (first :: rest) ts p = some s) :
    ∃ t, first ts p = some t ∧
      ((∃ failure, t.outcome = .error failure ∧ s = ⟨.error failure, t.cursor, t.log⟩) ∨
        ∃ value u, t.outcome = .ok value ∧ inOrder rest ts t.cursor = some u ∧
          s = ⟨u.outcome.map (value :: ·), u.cursor, t.log ++ u.log⟩) := by
  obtain ⟨t, ht, h⟩ := Option.bind_eq_some_iff.1 h
  refine ⟨t, ht, ?_⟩
  cases ho : t.outcome with
  | error failure =>
    rw [ho] at h
    exact Or.inl ⟨failure, rfl, (Option.some.inj h).symm⟩
  | ok value =>
    rw [ho] at h
    obtain ⟨u, hu, h⟩ := Option.map_eq_some_iff.1 h
    exact Or.inr ⟨value, u, rfl, hu, h.symm⟩

/-- A part fails, or the value made of the parts' values is refused, or all is well. Only then does
the cursor move. -/
theorem sequence_cases {parts : List (Consumer κ α)} {build : List α → Except String β}
    {s : Step κ β} (h : sequence parts build ts p = some s) :
    ∃ t, inOrder parts ts p = some t ∧
      ((∃ failure, t.outcome = .error failure ∧ s = ⟨.error failure, p, t.log⟩) ∨
        ∃ values, t.outcome = .ok values ∧
          ((∃ value, build values = .ok value ∧ s = ⟨.ok value, t.cursor, t.log⟩) ∨
            ∃ message, build values = .error message ∧
              s = ⟨.error (.backtrack (.located (.custom message) ts[t.cursor]?)), p, t.log⟩)) := by
  obtain ⟨t, ht, h⟩ := Option.map_eq_some_iff.1 h
  refine ⟨t, ht, ?_⟩
  cases ho : t.outcome with
  | error failure =>
    rw [ho] at h
    exact Or.inl ⟨failure, rfl, h.symm⟩
  | ok values =>
    rw [ho] at h
    refine Or.inr ⟨values, rfl, ?_⟩
    cases hb : build values with
    | ok value =>
      simp only [hb] at h
      exact Or.inl ⟨value, rfl, h.symm⟩
    | error message =>
      simp only [hb] at h
      exact Or.inr ⟨message, rfl, h.symm⟩

/-- Of two errors the further one is one of the two. -/
theorem furtherOf_cases (best : Option ParseError) (e : ParseError) :
    furtherOf best e = e ∨ best = some (furtherOf best e) := by
  cases best with
  | none => exact Or.inl rfl
  | some b =>
    rw [furtherOf]
    split
    · exact Or.inl rfl
    · exact Or.inr rfl

/-- The first alternative succeeds, or cuts, or fails ordinarily and the others are tried. -/
theorem choiceFrom_cons_cases {policy : ErrorPolicy} {index : Nat} {best : Option ParseError}
    {alternative : Consumer κ α} {rest : List (Consumer κ α)} {s : Step κ α}
    (h : choiceFrom policy ts p index best (alternative :: rest) = some s) :
    ∃ t, alternative ts p = some t ∧
      ((∃ value, t.outcome = .ok value ∧ s = t) ∨
        (∃ e, t.outcome = .error (.cut e) ∧
          s = ⟨.error (.cut e), p, t.log ++ [.alternativeCut index e]⟩) ∨
        ∃ e u, t.outcome = .error (.backtrack e) ∧
          choiceFrom policy ts p (index + 1) (some (furtherOf best e)) rest = some u ∧
          s = u.after (t.log ++ [.alternativeFailed index e])) := by
  obtain ⟨t, ht, h⟩ := Option.bind_eq_some_iff.1 h
  refine ⟨t, ht, ?_⟩
  cases ho : t.outcome with
  | ok value =>
    rw [ho] at h
    exact Or.inl ⟨value, rfl, (Option.some.inj h).symm⟩
  | error failure =>
    refine Or.inr ?_
    cases failure with
    | cut e =>
      rw [ho] at h
      exact Or.inl ⟨e, rfl, (Option.some.inj h).symm⟩
    | backtrack e =>
      rw [ho] at h
      obtain ⟨u, hu, h⟩ := Option.map_eq_some_iff.1 h
      exact Or.inr ⟨e, u, rfl, hu, h.symm⟩

theorem optional_cases {part : Consumer κ α} {s : Step κ (Option α)}
    (h : optional part ts p = some s) :
    ∃ t, part ts p = some t ∧
      ((∃ value, t.outcome = .ok value ∧ s = ⟨.ok (some value), t.cursor, t.log⟩) ∨
        ∃ failure log, t.outcome = .error failure ∧ s = ⟨.ok none, p, log⟩) := by
  obtain ⟨t, ht, h⟩ := Option.map_eq_some_iff.1 h
  refine ⟨t, ht, ?_⟩
  cases ho : t.outcome with
  | ok value =>
    rw [ho] at h
    exact Or.inl ⟨value, rfl, h.symm⟩
  | error failure =>
    refine Or.inr ?_
    cases failure <;> rw [ho] at h <;> exact ⟨_, _, rfl, h.symm⟩

theorem lookahead_cases {part : Consumer κ α} {s : Step κ α} (h : lookahead part ts p = some s) :
    ∃ t, part ts p = some t ∧
      ((∃ value, t.outcome = .ok value ∧ s = ⟨.ok value, p, t.log⟩) ∨
        ∃ failure, t.outcome = .error failure ∧ s = ⟨.error failure.toBacktrack, p, t.log⟩) := by
  obtain ⟨t, ht, rfl⟩ := Option.map_eq_some_iff.1 h
  refine ⟨t, ht, ?_⟩
  cases ho : t.outcome with
  | ok value => exact Or.inl ⟨value, rfl, rfl⟩
  | error failure => exact Or.inr ⟨failure, rfl, rfl⟩

theorem cut_cases {part : Consumer κ α} {s : Step κ α} (h : cut part ts p = some s) :
    ∃ t, part ts p = some t ∧
      ((∃ value, t.outcome = .ok value ∧ s = ⟨.ok value, t.cursor, t.log⟩) ∨
        ∃ failure, t.outcome = .error failure ∧ s = ⟨.error failure.toCut, t.cursor, t.log⟩) := by
  obtain ⟨t, ht, rfl⟩ := Option.map_eq_some_iff.1 h
  refine ⟨t, ht, ?_⟩
  cases ho : t.outcome with
  | ok value => exact Or.inl ⟨value, rfl, rfl⟩
  | error failure => exact Or.inr ⟨failure, rfl, rfl⟩

theorem map_cases {f : α → β} {part : Consumer κ α} {s : Step κ β}
    (h : map f part ts p = some s) :
    ∃ t, part ts p = some t ∧
      ((∃ value, t.outcome = .ok value ∧ s = ⟨.ok (f value), t.cursor, t.log⟩) ∨
        ∃ failure, t.outcome = .error failure ∧ s = ⟨.error failure, t.cursor, t.log⟩) := by
  obtain ⟨t, ht, rfl⟩ := Option.map_eq_some_iff.1 h
  refine ⟨t, ht, ?_⟩
  cases ho : t.outcome with
  | ok value => exact Or.inl ⟨value, rfl, rfl⟩
  | error failure => exact Or.inr ⟨failure, rfl, rfl⟩

/-- An item fails, or it is followed by a delimiter and another round, or it is the last. -/
theorem itemsFrom_cases [DecidableEq κ] {item : Consumer κ α} {delimiter : κ} {fuel count : Nat}
    {s : Step κ (List α)} (h : itemsFrom item delimiter ts (fuel + 1) count p = some s) :
    ∃ t, item ts p = some t ∧
      ((∃ failure log, t.outcome = .error failure ∧
          s = ⟨.error (if count = 0 then failure else failure.toCut), t.cursor, log⟩) ∨
        ∃ value, t.outcome = .ok value ∧
          ((((ts[t.cursor]?).any fun token => token.kind = delimiter) = true ∧
              ∃ u, itemsFrom item delimiter ts fuel (count + 1) (t.cursor.advance 1) = some u ∧
                s = ⟨u.outcome.map (value :: ·), u.cursor, t.log ++ u.log⟩) ∨
            (¬((ts[t.cursor]?).any fun token => token.kind = delimiter) = true ∧
              s = ⟨.ok [value], t.cursor, t.log⟩))) := by
  obtain ⟨t, ht, h⟩ := Option.bind_eq_some_iff.1 h
  refine ⟨t, ht, ?_⟩
  cases ho : t.outcome with
  | error failure =>
    rw [ho] at h
    refine Or.inl ⟨failure, ?_⟩
    simp only at h
    split at h
    · next hc => exact ⟨_, rfl, by rw [if_pos hc]; exact (Option.some.inj h).symm⟩
    · next hc => exact ⟨_, rfl, by rw [if_neg hc]; exact (Option.some.inj h).symm⟩
  | ok value =>
    rw [ho] at h
    refine Or.inr ⟨value, rfl, ?_⟩
    simp only at h
    split at h
    · next hd =>
      obtain ⟨u, hu, h⟩ := Option.map_eq_some_iff.1 h
      exact Or.inl ⟨hd, u, hu, h.symm⟩
    · next hd => exact Or.inr ⟨hd, (Option.some.inj h).symm⟩

theorem list_cases [DecidableEq κ] {item : Consumer κ α} {delimiter : κ} {s : Step κ (List α)}
    (h : list item delimiter ts p = some s) :
    ∃ t, itemsFrom item delimiter ts (ts.length + 1) 0 p = some t ∧
      ((∃ values, t.outcome = .ok values ∧ s = ⟨.ok values, t.cursor, t.log⟩) ∨
        ∃ failure, t.outcome = .error failure ∧ s = ⟨.error failure, p, t.log⟩) := by
  obtain ⟨t, ht, h⟩ := Option.map_eq_some_iff.1 h
  refine ⟨t, ht, ?_⟩
  cases ho : t.outcome with
  | ok values =>
    rw [ho] at h
    exact Or.inl ⟨values, rfl, h.symm⟩
  | error failure =>
    rw [ho] at h
    exact Or.inr ⟨failure, rfl, h.symm⟩

/-- A name changes nothing but the error of an ordinary failure at the first token, and the
notes. -/
theorem named_cases {name : String} {part : Consumer κ α} {s : Step κ α}
    (h : named name part ts p = some s) :
    ∃ t, part ts p = some t ∧ s.cursor = t.cursor ∧
      ((∃ value, t.outcome = .ok value ∧ s.outcome = .ok value) ∨
        (∃ e, t.outcome = .error (.backtrack e) ∧ isEntryError e ts p = true ∧
          s.outcome = .error (.backtrack (expected name ts p))) ∨
        (∃ e, t.outcome = .error (.backtrack e) ∧ isEntryError e ts p = false ∧
          s.outcome = .error (.backtrack e)) ∨
        ∃ e, t.outcome = .error (.cut e) ∧ s.outcome = .error (.cut e)) := by
  obtain ⟨t, ht, rfl⟩ := Option.map_eq_some_iff.1 h
  refine ⟨t, ht, ?_⟩
  cases ho : t.outcome with
  | ok value => exact ⟨rfl, Or.inl ⟨value, rfl, ho⟩⟩
  | error failure =>
    cases failure with
    | cut e => exact ⟨rfl, Or.inr (Or.inr (Or.inr ⟨e, rfl, ho⟩))⟩
    | backtrack e =>
      cases he : isEntryError e ts p with
      | true => exact ⟨by simp [he], Or.inr (Or.inl ⟨e, rfl, he, by simp [he]⟩)⟩
      | false =>
        exact ⟨by simp [he], Or.inr (Or.inr (Or.inl ⟨e, rfl, he, by simp [he, ho]⟩))⟩

/-! ## Failures that are handed on -/

theorem inOrder_cons_of_error {first : Consumer κ α} {rest : List (Consumer κ α)}
    {s : Step κ (List α)} {t : Step κ α} {failure : Failure}
    (h : inOrder (first :: rest) ts p = some s) (ht : first ts p = some t)
    (hf : t.outcome = .error failure) : s.outcome = .error failure := by
  simp only [inOrder, ht, Option.bind_some, hf] at h
  rw [← Option.some.inj h]

theorem sequence_of_error {parts : List (Consumer κ α)} {build : List α → Except String β}
    {s : Step κ β} {t : Step κ (List α)} {failure : Failure}
    (h : sequence parts build ts p = some s) (ht : inOrder parts ts p = some t)
    (hf : t.outcome = .error failure) : s.outcome = .error failure := by
  simp only [sequence, ht, Option.map_some, hf] at h
  rw [← Option.some.inj h]

theorem choiceFrom_cons_of_cut {policy : ErrorPolicy} {index : Nat} {best : Option ParseError}
    {alternative : Consumer κ α} {rest : List (Consumer κ α)} {s t : Step κ α} {e : ParseError}
    (h : choiceFrom policy ts p index best (alternative :: rest) = some s)
    (ht : alternative ts p = some t) (he : t.outcome = .error (.cut e)) :
    s.outcome = .error (.cut e) := by
  simp only [choiceFrom, ht, Option.bind_some, he] at h
  rw [← Option.some.inj h]

/-- A cut is a cut, behind a delimiter or not. -/
theorem itemsFrom_of_cut [DecidableEq κ] {item : Consumer κ α} {delimiter : κ} {fuel count : Nat}
    {s : Step κ (List α)} {t : Step κ α} {e : ParseError}
    (h : itemsFrom item delimiter ts (fuel + 1) count p = some s) (ht : item ts p = some t)
    (he : t.outcome = .error (.cut e)) : s.outcome = .error (.cut e) := by
  simp only [itemsFrom, ht, Option.bind_some, he] at h
  split at h
  · rw [← Option.some.inj h]
  · rw [← Option.some.inj h]
    rfl

theorem list_of_error [DecidableEq κ] {item : Consumer κ α} {delimiter : κ}
    {s t : Step κ (List α)} {failure : Failure} (h : list item delimiter ts p = some s)
    (ht : itemsFrom item delimiter ts (ts.length + 1) 0 p = some t)
    (hf : t.outcome = .error failure) : s.outcome = .error failure := by
  simp only [list, ht, Option.map_some, hf] at h
  rw [← Option.some.inj h]

end Consumer

end Descent
