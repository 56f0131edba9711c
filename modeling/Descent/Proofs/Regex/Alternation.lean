import Descent.Regex.Match

/-!
# What an alternation matches

Matching follows all threads of an expression together. In an alternation these are the threads of
the first expression, and behind them those of the second; neither sees anything of the other, since
the trail of a part is a part of the trail. What the threads of the first find is better than
whatever those of the second may find. So an alternation matches as its first expression does where
that one matches, and as the second does elsewhere (`Regex.matchAt?_alt`); both are tried by
themselves. A group matches as its body does and adds its name (`Regex.matchAt?_group`).

`Regex.Embeds` is what the two have in common: a thread that waits inside a part goes on as it would
in the part alone.
-/

namespace Descent.Regex

/-! ## Trails of parts -/

namespace Trail

@[simp] theorem fresh_union (t : Trail) : fresh.union t = t := by cases t <;> rfl

@[simp] theorem union_fresh (t : Trail) : t.union fresh = t := by cases t <;> rfl

theorem part_union (side : Side) (a b : Trail) :
    (a.union b).part side = (a.part side).union (b.part side) := by
  cases a with
  | fresh =>
    have hfresh : fresh.part side = fresh := rfl
    rw [fresh_union, hfresh, fresh_union]
  | node p a₁ a₂ =>
    cases b with
    | fresh =>
      have hfresh : fresh.part side = fresh := rfl
      rw [union_fresh, hfresh, union_fresh]
    | node q b₁ b₂ => cases side <;> rfl

theorem part_setPart (side : Side) (trail part : Trail) :
    (trail.setPart side part).part side = part := by
  cases side <;> rfl

theorem part_setPart_of_ne {side other : Side} (h : other ≠ side) (trail part : Trail) :
    (trail.setPart side part).part other = trail.part other := by
  cases side with
  | first =>
    cases other with
    | first => exact absurd rfl h
    | second => rfl
  | second =>
    cases other with
    | first => rfl
    | second => exact absurd rfl h

end Trail

/-! ## Threads in a part -/

/-- A thread of a part, seen from the expression around it. -/
def Thread.under (side : Side) (t : Thread) : Thread := { t with spot := side :: t.spot }

/-- The groups behind a part that may have a name. -/
def enclose (name : Option (List Char)) (groups : List (List Char)) : List (List Char) :=
  name.toList.filter (!groups.contains ·) ++ groups

theorem mem_enclose {name : Option (List Char)} {groups : List (List Char)} {n : List Char} :
    n ∈ enclose name groups ↔ n ∈ name ∨ n ∈ groups := by
  rw [enclose, List.mem_append, List.mem_filter, Option.mem_toList]
  by_cases hn : n ∈ groups <;> simp [hn]

/-- The match of a part that may have a name. -/
def Match.enclose (name : Option (List Char)) (m : Match) : Match :=
  { m with groups := Regex.enclose name m.groups }

theorem map_enclose_none (groups? : Option (List (List Char))) :
    groups?.map (enclose none) = groups? := by
  cases groups? <;> rfl

namespace Reach

theorem cut_enterPart (side : Side) (start : Pass → Reach) (here : Pass)
    (name : Option (List Char)) :
    ((enterPart side start here).named name).cut =
      let r := start { here with trail := here.trail.part side }
      (r.cut.1.map (Thread.under side), r.cut.2.map (Regex.enclose name)) := by
  simp only [enterPart, within, named, cut]
  generalize start _ = r
  obtain ⟨before, exit?, behind, passed⟩ := r
  cases exit? with
  | none =>
    simp only [Option.map_none, threads]
    rw [← List.map_append]
    rfl
  | some exit => rfl

theorem passed_enterPart (side : Side) (start : Pass → Reach) (here : Pass)
    (name : Option (List Char)) :
    ((enterPart side start here).named name).passed =
      Trail.fresh.setPart side (start { here with trail := here.trail.part side }).passed := rfl

/-- What is left of a choice between two: the second counts only where the first has no way out. -/
theorem cut_orElse (a b : Reach) :
    (a.orElse b).cut =
      match a.cut.2 with
      | some groups => (a.cut.1, some groups)
      | none => (a.cut.1 ++ b.cut.1, b.cut.2) := by
  obtain ⟨before, exit?, behind, passed⟩ := a
  cases exit? with
  | some exit => rfl
  | none =>
    obtain ⟨before', exit?', behind', passed'⟩ := b
    cases exit?' with
    | some exit => rfl
    | none => simp only [orElse, cut, threads, List.append_assoc]

theorem cut_passed (r : Reach) (passed : Trail) : { r with passed }.cut = r.cut := rfl

theorem named_none (r : Reach) : r.named none = r := by
  obtain ⟨before, exit?, behind, passed⟩ := r
  cases exit? <;> rfl

end Reach

/-- Whether a thread in a part of an expression goes on as it does in the part alone; leaving the
part leaves the expression, and may add a name to the groups. -/
def Embeds (outer r : Regex) (side : Side) (name : Option (List Char)) : Prop :=
  ∀ p spot here, outer.resume p (side :: spot) here
    = (enterPart side (r.resume p spot) here).named name

theorem embeds_alt_first (a b : Regex) : Embeds (alt a b) a .first none := by
  intro p spot here
  rw [Reach.named_none]
  rfl

theorem embeds_alt_second (a b : Regex) : Embeds (alt a b) b .second none := by
  intro p spot here
  rw [Reach.named_none]
  rfl

theorem embeds_group (name : Option (List Char)) (r : Regex) :
    Embeds (group name r) r .first name := fun _ _ _ => rfl

/-! ## Over one character -/

/-- What has been passed at a place when some threads have gone on there. -/
def trailBehind (r : Regex) (p : Place) (trail : Trail) (threads : List Thread) : Trail :=
  threads.foldl (fun trail t => trail.union (r.resume p t.spot ⟨t.groups, trail⟩).passed) trail

/-- Threads go on in order, up to the first that leaves the expression. -/
theorem advance_append (r : Regex) (p : Place) (trail : Trail) (xs ys : List Thread) :
    r.advance p trail (xs ++ ys) =
      match r.advance p trail xs with
      | (threads, some groups) => (threads, some groups)
      | (threads, none) =>
        let rest := r.advance p (r.trailBehind p trail xs) ys
        (threads ++ rest.1, rest.2) := by
  induction xs generalizing trail with
  | nil => rfl
  | cons t xs ih =>
    rw [List.cons_append, advance, advance, trailBehind, List.foldl_cons]
    cases hcut : (r.resume p t.spot ⟨t.groups, trail⟩).cut with
    | mk threads groups? =>
      cases groups? with
      | some groups => rfl
      | none =>
        simp only [ih]
        cases hrest : r.advance p (trail.union (r.resume p t.spot ⟨t.groups, trail⟩).passed) xs with
        | mk others found? =>
          cases found? with
          | some groups => rfl
          | none => simp only [List.append_assoc]; rfl

section

variable {outer r : Regex} {side : Side} {name : Option (List Char)}

theorem Embeds.resume_under (h : Embeds outer r side name) (p : Place) (trail : Trail)
    (t : Thread) :
    outer.resume p (t.under side).spot ⟨(t.under side).groups, trail⟩
      = (enterPart side (r.resume p t.spot) ⟨t.groups, trail⟩).named name :=
  h p t.spot ⟨t.groups, trail⟩

/-- The threads of a part go on as they do in the part alone. -/
theorem advance_under (h : Embeds outer r side name) (p : Place) (trail : Trail)
    (ts : List Thread) :
    outer.advance p trail (ts.map (Thread.under side)) =
      let inner := r.advance p (trail.part side) ts
      (inner.1.map (Thread.under side), inner.2.map (enclose name)) := by
  induction ts generalizing trail with
  | nil => rfl
  | cons t ts ih =>
    rw [List.map_cons, advance, advance, h.resume_under, Reach.cut_enterPart,
      Reach.passed_enterPart]
    simp only
    cases hcut : (r.resume p t.spot ⟨t.groups, trail.part side⟩).cut with
    | mk threads groups? =>
      cases groups? with
      | some groups => rfl
      | none =>
        simp only [Option.map_none, ih, Trail.part_union, Trail.part_setPart, List.map_append]

/-- The threads of a part pass nothing of another part. -/
theorem part_trailBehind (h : Embeds outer r side name) {other : Side} (hne : other ≠ side)
    (p : Place) (trail : Trail) (ts : List Thread) :
    (outer.trailBehind p trail (ts.map (Thread.under side))).part other = trail.part other := by
  induction ts generalizing trail with
  | nil => rfl
  | cons t ts ih =>
    have hfresh : Trail.fresh.part other = .fresh := rfl
    have hpassed : (outer.resume p (t.under side).spot ⟨(t.under side).groups, trail⟩).passed.part
        other = .fresh := by
      rw [h.resume_under, Reach.passed_enterPart, Trail.part_setPart_of_ne hne, hfresh]
    rw [trailBehind, List.map_cons, List.foldl_cons, ← trailBehind, ih, Trail.part_union, hpassed,
      Trail.union_fresh]

end

/-! ## Through a text -/

theorem follow_nil (r : Regex) (found? : Option Match) (length : Nat) (before after : List Char) :
    r.follow found? length [] before after = found? := by
  cases after <;> rfl

/-- One more character, whether or not there are threads. -/
theorem follow_cons (r : Regex) (found? : Option Match) (length : Nat) (ts : List Thread)
    (before rest : List Char) (c : Char) :
    r.follow found? length ts before (c :: rest) =
      let next := r.advance ⟨c :: before, rest⟩ .fresh ts
      r.follow ((next.2.map fun groups => ⟨length + 1, groups⟩) <|> found?) (length + 1) next.1
        (c :: before) rest := by
  cases ts with
  | nil => exact (follow_nil r found? length before (c :: rest)).trans (follow_nil r _ _ _ _).symm
  | cons t ts => rw [follow]; rfl

/-- What has been found is only given up for something better. -/
theorem isSome_follow (r : Regex) {found? : Option Match} (h : found?.isSome) (length : Nat)
    (ts : List Thread) (before after : List Char) :
    (r.follow found? length ts before after).isSome := by
  induction after generalizing found? length ts before with
  | nil => exact h
  | cons c rest ih =>
    rw [follow_cons]
    refine ih ?_ _ _ _
    cases (r.advance ⟨c :: before, rest⟩ .fresh ts).2 with
    | none => exact h
    | some groups => rfl

theorem follow_under {outer r : Regex} {side : Side} {name : Option (List Char)}
    (h : Embeds outer r side name) (found? : Option Match) (length : Nat) (ts : List Thread)
    (before after : List Char) :
    outer.follow (found?.map (Match.enclose name)) length (ts.map (Thread.under side)) before after
      = (r.follow found? length ts before after).map (Match.enclose name) := by
  induction after generalizing found? length ts before with
  | nil => rfl
  | cons c rest ih =>
    have hfresh : Trail.fresh.part side = .fresh := rfl
    rw [follow_cons, follow_cons, advance_under h, hfresh]
    simp only
    rw [← ih]
    cases (r.advance ⟨c :: before, rest⟩ .fresh ts).2 <;> rfl

/-- Once the first expression has been found to match, the second counts no more. -/
theorem follow_alt_first (a b : Regex) (m : Match) (length : Nat) (xs : List Thread)
    (before after : List Char) (other? : Option Match) :
    (alt a b).follow (some m) length (xs.map (Thread.under .first)) before after
      = (a.follow (some m) length xs before after).or other? := by
  have hfollow := follow_under (embeds_alt_first a b) (some m) length xs before after
  have hsome : (a.follow (some m) length xs before after).isSome :=
    isSome_follow a rfl length xs before after
  obtain ⟨best, hbest⟩ := Option.isSome_iff_exists.1 hsome
  rw [hbest] at hfollow
  rw [hbest, Option.some_or]
  exact hfollow

/-- As long as the threads of the first expression find nothing, those of the second go on beside
them. -/
theorem follow_alt (a b : Regex) (found? : Option Match) (length : Nat) (xs ys : List Thread)
    (before after : List Char) :
    (alt a b).follow found? length (xs.map (Thread.under .first) ++ ys.map (Thread.under .second))
        before after
      = (a.follow none length xs before after).or (b.follow found? length ys before after) := by
  induction after generalizing found? length xs ys before with
  | nil => rfl
  | cons c rest ih =>
    have hfresh : ∀ side, Trail.fresh.part side = .fresh := fun _ => rfl
    have htrail : ((alt a b).trailBehind ⟨c :: before, rest⟩ .fresh
        (xs.map (Thread.under .first))).part .second = .fresh :=
      part_trailBehind (embeds_alt_first a b) (by decide) _ _ _
    rw [follow_cons, follow_cons, follow_cons, advance_append, advance_under (embeds_alt_first a b),
      hfresh]
    cases a.advance ⟨c :: before, rest⟩ .fresh xs with
    | mk xs' groups? =>
      cases groups? with
      | some groups =>
        -- a thread of the first has left, and those of the second are dropped
        exact follow_alt_first a b ⟨length + 1, groups⟩ _ xs' _ _ _
      | none =>
        have hrest := ih ((b.advance ⟨c :: before, rest⟩ .fresh ys).2.map
          (fun groups => ⟨length + 1, groups⟩) <|> found?) (length + 1) xs'
          (b.advance ⟨c :: before, rest⟩ .fresh ys).1 (c :: before)
        simp only [Option.map_none, advance_under (embeds_alt_second a b), htrail,
          map_enclose_none]
        exact hrest

/-! ## Matches -/

/-- A group matches as its body does. -/
theorem matchAt?_group (name : Option (List Char)) (r : Regex) (p : Place) :
    (group name r).matchAt? p = (r.matchAt? p).map (Match.enclose name) := by
  have hstart : (group name r).start p ⟨[], .fresh⟩
      = (enterPart .first (r.start p) ⟨[], .fresh⟩).named name := rfl
  have hfresh : Trail.fresh.part .first = .fresh := rfl
  rw [matchAt?, matchAt?, hstart, Reach.cut_enterPart, hfresh]
  simp only
  rw [← follow_under (embeds_group name r)]
  cases (r.start p ⟨[], .fresh⟩).cut.2 <;> rfl

/-- At the outset the threads of an alternation are those of its expressions, unless the first
matches nothing at once. -/
theorem cut_start_alt (a b : Regex) (p : Place) :
    ((alt a b).start p ⟨[], .fresh⟩).cut =
      let first := (a.start p ⟨[], .fresh⟩).cut
      let second := (b.start p ⟨[], .fresh⟩).cut
      match first.2 with
      | some groups => (first.1.map (Thread.under .first), some groups)
      | none =>
        (first.1.map (Thread.under .first) ++ second.1.map (Thread.under .second), second.2) := by
  have hpart : ∀ side, Trail.fresh.mark.part side = .fresh := by
    intro side
    cases side <;> rfl
  have hpassed : ¬ Trail.fresh.passed = true := Bool.false_ne_true
  have hfirst := Reach.cut_enterPart .first (a.start p) ⟨[], Trail.fresh.mark⟩ none
  have hsecond := Reach.cut_enterPart .second (b.start p) ⟨[], Trail.fresh.mark⟩ none
  simp only [hpart, Reach.named_none, map_enclose_none] at hfirst hsecond
  rw [start_alt, if_neg hpassed, Reach.choice, Reach.cut_passed, if_pos rfl, Reach.cut_orElse,
    hfirst, hsecond]

/-- An alternation matches as its first expression does, or else as its second. -/
theorem matchAt?_alt (a b : Regex) (p : Place) :
    (alt a b).matchAt? p = (a.matchAt? p).or (b.matchAt? p) := by
  rw [matchAt?, matchAt?, matchAt?, cut_start_alt]
  cases (a.start p ⟨[], .fresh⟩).cut with
  | mk xs groups? =>
    cases groups? with
    | some groups => exact follow_alt_first a b ⟨0, groups⟩ 0 xs p.before p.after _
    | none => exact follow_alt a b _ 0 xs _ p.before p.after

/-- An alternation matches as the first of its expressions that matches at all. -/
theorem matchAt?_alts {rs : List Regex} (hne : rs ≠ []) (p : Place) :
    (alts rs).matchAt? p = rs.findSome? (·.matchAt? p) := by
  induction rs with
  | nil => exact absurd rfl hne
  | cons r rest ih =>
    rw [List.findSome?_cons]
    cases rest with
    | nil =>
      have halts : alts [r] = r := rfl
      rw [halts]
      cases r.matchAt? p <;> rfl
    | cons s rest =>
      have halts : alts (r :: s :: rest) = alt r (alts (s :: rest)) := rfl
      rw [halts, matchAt?_alt, ih (List.cons_ne_nil _ _)]
      cases r.matchAt? p <;> rfl

end Descent.Regex
