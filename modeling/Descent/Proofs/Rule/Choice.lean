import Mathlib.Data.List.Forall2
import Mathlib.Data.List.Induction
import Descent.Rule.Primitive
import Descent.Proofs.Rule.Calls
import Descent.Proofs.Sites

/-!
# What a choice chooses

A choice tries its alternatives one after another, keeps the furthest of their errors while they
fail ordinarily, and stops at the first that does not. `Grammar.Chooses` says what comes of it
without going through them: the first alternative that does not fail ordinarily settles the matter,
and if there is none, the policy does. Nothing is asked of the alternatives, so they may be raw
rules that do not keep their cursor.

Of several furthest errors a choice keeps the first (`ParseError.FirstFurthest`). To take the
furthest of some errors first, and then the further of it and an earlier one, makes no difference
(`ParseError.furthest_of_eq_some`), so a choice among the alternatives of another one may be made at
once (`Grammar.choice_flatten`).
-/

namespace Descent

/-! ## The furthest error -/

namespace ParseError

open Consumer (furtherOf)

variable {κ : Type} {ts : List (Token κ)} {p : Cursor} {e e' : ParseError}
  {errors : List ParseError}

/-- Whether an error is the first of the furthest ones: none is further, and none before it is as
far. -/
def FirstFurthest (errors : List ParseError) (e : ParseError) : Prop :=
  ∃ before after, errors = before ++ e :: after ∧ (∀ x ∈ before, x.site < e.site) ∧
    ∀ x ∈ after, x.site ≤ e.site

/-- The error that is left of some errors and an earlier one. -/
def furthest (best : Option ParseError) (errors : List ParseError) : Option ParseError :=
  errors.foldl (fun best e => some (furtherOf best e)) best

theorem furtherOf_some (e e' : ParseError) :
    furtherOf (some e) e' = if e.site < e'.site then e' else e := by
  rw [furtherOf]
  exact if_congr isFurtherThan_iff rfl rfl

theorem FirstFurthest.ne_nil (h : FirstFurthest errors e) : errors ≠ [] := by
  obtain ⟨before, after, rfl, -⟩ := h
  exact List.append_ne_nil_of_right_ne_nil before nofun

theorem FirstFurthest.concat (h : FirstFurthest errors e) (x : ParseError) :
    FirstFurthest (errors ++ [x]) (furtherOf (some e) x) := by
  obtain ⟨before, after, rfl, hbefore, hafter⟩ := h
  rw [furtherOf_some]
  split
  · next hlt =>
    -- the new error leaves all others behind
    refine ⟨_, [], rfl, fun y hy => ?_, nofun⟩
    rcases List.mem_append.1 hy with hy | hy
    · exact (hbefore y hy).trans hlt
    · rcases List.mem_cons.1 hy with rfl | hy
      · exact hlt
      · exact (hafter y hy).trans_lt hlt
  · next hle =>
    refine ⟨before, after ++ [x], by rw [List.append_assoc, List.cons_append], hbefore,
      fun y hy => ?_⟩
    rcases List.mem_append.1 hy with hy | hy
    · exact hafter y hy
    · rw [List.mem_singleton.1 hy]
      exact not_lt.1 hle

theorem FirstFurthest.unique (h : FirstFurthest errors e) (h' : FirstFurthest errors e') :
    e = e' := by
  obtain ⟨before, after, rfl, hbefore, hafter⟩ := h
  obtain ⟨before', after', heq, hbefore', hafter'⟩ := h'
  -- the one that stands further in front is nearer, and the other one no further
  rcases List.append_eq_append_iff.1 heq with
    ⟨_ | ⟨_, more⟩, rfl, hrest⟩ | ⟨_ | ⟨_, more⟩, rfl, hrest⟩
  · exact (List.cons.inj hrest).1
  · obtain ⟨rfl, rfl⟩ := List.cons.inj hrest
    have hlt := hbefore' e (List.mem_append_right _ List.mem_cons_self)
    have hle := hafter e' (List.mem_append_right _ List.mem_cons_self)
    exact absurd hlt hle.not_gt
  · exact (List.cons.inj hrest).1.symm
  · obtain ⟨rfl, rfl⟩ := List.cons.inj hrest
    have hlt := hbefore e' (List.mem_append_right _ List.mem_cons_self)
    have hle := hafter' e (List.mem_append_right _ List.mem_cons_self)
    exact absurd hlt hle.not_gt

theorem furthest_append (best : Option ParseError) (errors others : List ParseError) :
    furthest best (errors ++ others) = furthest (furthest best errors) others :=
  List.foldl_append

theorem exists_firstFurthest (hne : errors ≠ []) :
    ∃ e, furthest none errors = some e ∧ FirstFurthest errors e := by
  induction errors using List.reverseRecOn with
  | nil => exact absurd rfl hne
  | append_singleton errors x ih =>
    rw [furthest_append]
    by_cases hnil : errors = []
    · subst hnil
      exact ⟨x, rfl, [], [], rfl, nofun, nofun⟩
    · obtain ⟨e, he, hfirst⟩ := ih hnil
      rw [he]
      exact ⟨_, rfl, hfirst.concat x⟩

theorem furthest_eq_some_iff : furthest none errors = some e ↔ FirstFurthest errors e := by
  constructor
  · intro h
    have hne : errors ≠ [] := by
      rintro rfl
      nomatch h
    obtain ⟨e', he', hfirst⟩ := exists_firstFurthest hne
    obtain rfl := Option.some.inj (h.symm.trans he')
    exact hfirst
  · intro h
    obtain ⟨e', he', hfirst⟩ := exists_firstFurthest h.ne_nil
    rw [he', h.unique hfirst]

/-- Whether the second of three errors is compared with the first or with the third before makes no
difference. -/
theorem furtherOf_assoc (best : Option ParseError) (e e' : ParseError) :
    furtherOf (some (furtherOf best e)) e' = furtherOf best (furtherOf (some e) e') := by
  cases best with
  | none => rfl
  | some b =>
    simp only [furtherOf_some]
    split_ifs <;> grind

/-- The furthest of some errors stands for all of them. -/
theorem furthest_of_eq_some (best : Option ParseError) (h : furthest none errors = some e) :
    furthest best errors = some (furtherOf best e) := by
  induction errors using List.reverseRecOn generalizing e with
  | nil => nomatch h
  | append_singleton errors x ih =>
    rw [furthest_append] at h ⊢
    cases hbefore : furthest none errors with
    | none =>
      have hnil : errors = [] := by
        by_contra hne
        obtain ⟨e', he', -⟩ := exists_firstFurthest hne
        rw [hbefore] at he'
        nomatch he'
      subst hnil
      obtain rfl := Option.some.inj h
      rfl
    | some e' =>
      rw [hbefore] at h
      obtain rfl := Option.some.inj h
      rw [ih hbefore]
      exact congrArg some (furtherOf_assoc best e' x)

end ParseError

/-! ## Choices -/

namespace ParseError

open Consumer (exhausted)

variable {κ : Type} {ts : List (Token κ)} {p : Cursor} {e : ParseError}

/-- Whether an error complains that the token at a cursor was not expected, or, if there is none,
that the end was not. -/
def IsUnexpected (e : ParseError) (ts : List (Token κ)) (p : Cursor) : Prop :=
  e.IsAt ts p ∧ e.reason = ts[p]?.elim .unexpectedEnd fun t => .unexpectedToken t.value

theorem isUnexpected_iff : e.IsUnexpected ts p ↔ e = unexpected ts p := by
  obtain ⟨reason, position, span⟩ := e
  rw [IsUnexpected, IsAt, unexpected]
  cases ts[p]? with
  | none => simp [ofReason, and_comm]
  | some t => simp [located, and_comm]

/-- What the policy makes of the errors of all alternatives. -/
theorem eq_exhausted_iff {policy : ErrorPolicy} {errors : List ParseError} :
    e = exhausted policy (furthest none errors) ts p ↔
      (policy = .entry ∨ errors = []) ∧ e.IsUnexpected ts p ∨
        policy = .furthest ∧ FirstFurthest errors e := by
  rw [isUnexpected_iff]
  by_cases hnil : errors = []
  · -- there is no error to look for
    subst hnil
    have hnot : ¬FirstFurthest [] e := fun h => h.ne_nil rfl
    cases policy <;> simp [exhausted, furthest, hnot]
  · obtain ⟨e', he', hfirst⟩ := exists_firstFurthest hnil
    rw [he', ← furthest_eq_some_iff, he']
    cases policy <;> simp [exhausted, hnil, eq_comm]

end ParseError

namespace Grammar

open Consumer (choiceFrom choiceFrom_cons_cases exhausted furtherOf)
open ParseError (furthest FirstFurthest furthest_append)

variable {κ ν : Type} [DecidableEq κ] {g : Grammar κ ν} {ts : List (Token κ)} {p q : Cursor}
  {a : Rule κ ν} {xs ys zs rest alternatives : List (Rule κ ν)} {o : Except Failure ν}
  {e : ParseError} {errors : List ParseError}

/-- Whether a rule fails ordinarily from a cursor and with which error, wherever it leaves its
cursor. -/
def BalksWith (g : Grammar κ ν) (ts : List (Token κ)) (p : Cursor) (a : Rule κ ν)
    (e : ParseError) : Prop :=
  ∃ q, g.EndsWith ts (a, p) (.error (.backtrack e)) q

/-- What comes of a choice because of an alternative that does not fail ordinarily: its value and
its cursor, or its cut at the cursor of the choice. -/
inductive Settles (g : Grammar κ ν) (ts : List (Token κ)) (p : Cursor) (a : Rule κ ν) :
    Except Failure ν → Cursor → Prop
  | value {v : ν} {q : Cursor} : g.EndsWith ts (a, p) (.ok v) q → Settles g ts p a (.ok v) q
  | cut {e : ParseError} {q : Cursor} :
    g.EndsWith ts (a, p) (.error (.cut e)) q → Settles g ts p a (.error (.cut e)) p

/-- Whether some alternative is the first that does not fail ordinarily, and what comes of it. The
alternatives behind it do not matter. -/
def Settled (g : Grammar κ ν) (ts : List (Token κ)) (p : Cursor) (alternatives : List (Rule κ ν))
    (o : Except Failure ν) (q : Cursor) : Prop :=
  ∃ before a after, alternatives = before ++ a :: after ∧
    (∀ b ∈ before, ∃ x, g.BalksWith ts p b x) ∧ g.Settles ts p a o q

/-- What a choice comes to: what the first alternative makes of it that does not fail ordinarily, or
an ordinary failure at the cursor where it was made, with the error that the policy asks for. -/
inductive Chooses (g : Grammar κ ν) (ts : List (Token κ)) (p : Cursor)
    (alternatives : List (Rule κ ν)) : Except Failure ν → Cursor → Prop
  | settled {o : Except Failure ν} {q : Cursor} :
    g.Settled ts p alternatives o q → Chooses g ts p alternatives o q
  | entry {errors : List ParseError} {e : ParseError} :
    List.Forall₂ (g.BalksWith ts p) alternatives errors →
      g.policy = .entry ∨ alternatives = [] → e.IsUnexpected ts p →
        Chooses g ts p alternatives (.error (.backtrack e)) p
  | furthest {errors : List ParseError} {e : ParseError} :
    List.Forall₂ (g.BalksWith ts p) alternatives errors → g.policy = .furthest →
      FirstFurthest errors e → Chooses g ts p alternatives (.error (.backtrack e)) p

/-! ### Going through the alternatives -/

/-- Whether all alternatives fail ordinarily, and what comes of their errors and an earlier one. -/
def Exhausted (g : Grammar κ ν) (ts : List (Token κ)) (p : Cursor) (best : Option ParseError)
    (alternatives : List (Rule κ ν)) (o : Except Failure ν) (q : Cursor) : Prop :=
  ∃ errors, List.Forall₂ (g.BalksWith ts p) alternatives errors ∧
    o = .error (.backtrack (exhausted g.policy (furthest best errors) ts p)) ∧ q = p

theorem not_settled_nil : ¬g.Settled ts p [] o q := by
  rintro ⟨before, a, after, h, -⟩
  exact List.cons_ne_nil a after (List.append_eq_nil_iff.1 h.symm).2

theorem settled_cons_iff : g.Settled ts p (a :: rest) o q ↔
    g.Settles ts p a o q ∨ (∃ e, g.BalksWith ts p a e) ∧ g.Settled ts p rest o q := by
  constructor
  · rintro ⟨before, b, after, heq, hbefore, hb⟩
    cases before with
    | nil =>
      obtain ⟨rfl, -⟩ := List.cons.inj heq
      exact Or.inl hb
    | cons first before =>
      obtain ⟨rfl, hrest⟩ := List.cons.inj heq
      obtain ⟨hfirst, hbefore⟩ := List.forall_mem_cons.1 hbefore
      exact Or.inr ⟨hfirst, before, b, after, hrest, hbefore, hb⟩
  · rintro (ha | ⟨ha, before, b, after, rfl, hbefore, hb⟩)
    · exact ⟨[], a, rest, rfl, List.forall_mem_nil _, ha⟩
    · exact ⟨a :: before, b, after, rfl, List.forall_mem_cons.2 ⟨ha, hbefore⟩, hb⟩

theorem settled_append_iff : g.Settled ts p (xs ++ ys) o q ↔
    g.Settled ts p xs o q ∨ (∀ x ∈ xs, ∃ e, g.BalksWith ts p x e) ∧ g.Settled ts p ys o q := by
  induction xs with
  | nil => simp [not_settled_nil]
  | cons x xs ih =>
    rw [List.cons_append, settled_cons_iff, settled_cons_iff, ih, List.forall_mem_cons]
    tauto

theorem exhausted_nil_iff {best : Option ParseError} : g.Exhausted ts p best [] o q ↔
    o = .error (.backtrack (exhausted g.policy best ts p)) ∧ q = p := by
  simp [Exhausted, furthest]

theorem exhausted_cons_iff {best : Option ParseError} : g.Exhausted ts p best (a :: rest) o q ↔
    ∃ e, g.BalksWith ts p a e ∧ g.Exhausted ts p (some (furtherOf best e)) rest o q := by
  constructor
  · rintro ⟨errors, hall, ho⟩
    obtain ⟨e, errors, ha, hrest, rfl⟩ := List.forall₂_cons_left_iff.1 hall
    exact ⟨e, ha, errors, hrest, ho⟩
  · rintro ⟨e, ha, errors, hrest, ho⟩
    exact ⟨e :: errors, .cons ha hrest, ho⟩

theorem exhausted_append_iff {best : Option ParseError} : g.Exhausted ts p best (xs ++ ys) o q ↔
    ∃ errors, List.Forall₂ (g.BalksWith ts p) xs errors ∧
      g.Exhausted ts p (furthest best errors) ys o q := by
  induction xs generalizing best with
  | nil => simp [furthest]
  | cons x xs ih =>
    rw [List.cons_append, exhausted_cons_iff]
    constructor
    · rintro ⟨e, hx, hrest⟩
      obtain ⟨errors, hxs, hys⟩ := ih.1 hrest
      exact ⟨e :: errors, .cons hx hxs, hys⟩
    · rintro ⟨errors, hall, hys⟩
      obtain ⟨e, errors, hx, hxs, rfl⟩ := List.forall₂_cons_left_iff.1 hall
      exact ⟨e, hx, ih.2 ⟨errors, hxs, hys⟩⟩

/-! ### Runs -/

/-- A choice that ends has been settled by an alternative, or all of them have failed. -/
theorem settled_or_exhausted_of_choiceFrom {n index : Nat} {best : Option ParseError} {s : Step κ ν}
    (hs : choiceFrom g.policy ts p index best (alternatives.map (g.run n)) = some s) :
    g.Settled ts p alternatives s.outcome s.cursor ∨
      g.Exhausted ts p best alternatives s.outcome s.cursor := by
  induction alternatives generalizing index best s with
  | nil =>
    obtain rfl := Option.some.inj hs
    exact Or.inr (exhausted_nil_iff.2 ⟨rfl, rfl⟩)
  | cons a rest ih =>
    rw [settled_cons_iff, exhausted_cons_iff]
    obtain ⟨t, ht, ⟨v, hv, rfl⟩ | ⟨e, he, rfl⟩ | ⟨e, u, he, hu, rfl⟩⟩ := choiceFrom_cons_cases hs
    · rw [hv]
      exact Or.inl (Or.inl (.value ⟨s, ⟨n, ht⟩, hv, rfl⟩))
    · exact Or.inl (Or.inl (.cut ⟨t, ⟨n, ht⟩, he, rfl⟩))
    · have ha : g.BalksWith ts p a e := ⟨t.cursor, t, ⟨n, ht⟩, he, rfl⟩
      exact (ih hu).imp (fun hrest => Or.inr ⟨⟨e, ha⟩, hrest⟩) fun hrest => ⟨e, ha, hrest⟩

/-- An alternative that settles a choice, or the failures of all of them, make it end. -/
theorem exists_choiceFrom_of_settled_or_exhausted {best : Option ParseError}
    (h : g.Settled ts p alternatives o q ∨ g.Exhausted ts p best alternatives o q) :
    ∃ n, ∀ m, n ≤ m → ∀ index, ∃ s,
      choiceFrom g.policy ts p index best (alternatives.map (g.run m)) = some s ∧
        s.outcome = o ∧ s.cursor = q := by
  induction alternatives generalizing best with
  | nil =>
    obtain h | h := h
    · exact absurd h not_settled_nil
    · obtain ⟨rfl, rfl⟩ := exhausted_nil_iff.1 h
      exact ⟨0, fun _ _ _ => ⟨_, rfl, rfl, rfl⟩⟩
  | cons a rest ih =>
    rw [settled_cons_iff, exhausted_cons_iff] at h
    -- the first alternative balks, and the choice is made among the others
    have hnext {e : ParseError} (ha : g.BalksWith ts p a e)
        (hrest : g.Settled ts p rest o q ∨ g.Exhausted ts p (some (furtherOf best e)) rest o q) :
        ∃ n, ∀ m, n ≤ m → ∀ index, ∃ s,
          choiceFrom g.policy ts p index best ((a :: rest).map (g.run m)) = some s ∧
            s.outcome = o ∧ s.cursor = q := by
      obtain ⟨r, t, ⟨k, ht⟩, he, -⟩ := ha
      obtain ⟨n, hn⟩ := ih hrest
      refine ⟨max k n, fun m hm index => ?_⟩
      obtain ⟨s, hs, ho, hq⟩ := hn m (le_trans (Nat.le_max_right k n) hm) (index + 1)
      have ht' := run_mono (le_trans (Nat.le_max_left k n) hm) ht
      refine ⟨s.after (t.log ++ [.alternativeFailed index e]), ?_, ho, hq⟩
      rw [List.map_cons, choiceFrom, ht', Option.bind_some, he]
      simp only [hs, Option.map_some]
    obtain (ha | ⟨⟨e, ha⟩, hrest⟩) | ⟨e, ha, hrest⟩ := h
    · cases ha with
      | value ha =>
        obtain ⟨t, ⟨k, ht⟩, hv, hq⟩ := ha
        refine ⟨k, fun m hm index => ⟨t, ?_, hv, hq⟩⟩
        rw [List.map_cons, choiceFrom, run_mono hm ht, Option.bind_some, hv]
      | @cut e _ ha =>
        obtain ⟨t, ⟨k, ht⟩, he, -⟩ := ha
        refine ⟨k, fun m hm index =>
          ⟨⟨.error (.cut e), p, t.log ++ [.alternativeCut index e]⟩, ?_, rfl, rfl⟩⟩
        rw [List.map_cons, choiceFrom, run_mono hm ht, Option.bind_some, he]
    · exact hnext ha (Or.inl hrest)
    · exact hnext ha (Or.inr hrest)

theorem endsWith_choice_iff : g.EndsWith ts (.choice alternatives, p) o q ↔
    g.Settled ts p alternatives o q ∨ g.Exhausted ts p none alternatives o q := by
  constructor
  · rintro ⟨s, hs, rfl, rfl⟩
    obtain ⟨n, hs⟩ := hs.exists_run_succ
    exact settled_or_exhausted_of_choiceFrom hs
  · intro h
    obtain ⟨n, hn⟩ := exists_choiceFrom_of_settled_or_exhausted h
    obtain ⟨s, hs, ho, hq⟩ := hn n (Nat.le_refl n) 0
    exact ⟨s, ⟨n + 1, hs⟩, ho, hq⟩

theorem balksWith_choice_iff : g.BalksWith ts p (.choice alternatives) e ↔
    ∃ errors, List.Forall₂ (g.BalksWith ts p) alternatives errors ∧
      e = exhausted g.policy (furthest none errors) ts p := by
  constructor
  · rintro ⟨q, h⟩
    obtain ⟨_, a, _, _, _, ha⟩ | ⟨errors, hall, he, -⟩ := endsWith_choice_iff.1 h
    · nomatch ha
    · exact ⟨errors, hall, Failure.backtrack.inj (Except.error.inj he)⟩
  · rintro ⟨errors, hall, rfl⟩
    exact ⟨p, endsWith_choice_iff.2 (Or.inr ⟨errors, hall, rfl, rfl⟩)⟩

/-- A choice ends in exactly the ways that its specification gives, whatever its alternatives do:
the first of them that does not fail ordinarily gives it its value and its cursor, or its cut and
leaves the cursor. If all fail ordinarily, so does the choice, without moving the cursor, and
complains about the token there or, if the policy is to look for it, has the first of the furthest
errors. -/
theorem endsWith_choice_iff_chooses : g.EndsWith ts (.choice alternatives, p) o q ↔
    g.Chooses ts p alternatives o q := by
  rw [endsWith_choice_iff]
  constructor
  · rintro (hsettled | ⟨errors, hall, rfl, rfl⟩)
    · exact .settled hsettled
    · obtain ⟨hentry, he⟩ | ⟨hpolicy, hfirst⟩ := ParseError.eq_exhausted_iff.1 rfl
      · refine .entry hall (hentry.imp_right ?_) he
        rintro rfl
        exact List.forall₂_nil_right_iff.1 hall
      · exact .furthest hall hpolicy hfirst
  · rintro (hsettled | ⟨hall, hentry, he⟩ | ⟨hall, hpolicy, hfirst⟩)
    · exact Or.inl hsettled
    · have hentry' := hentry.imp_right fun h => List.forall₂_nil_left_iff.1 (h ▸ hall)
      rw [ParseError.eq_exhausted_iff.2 (Or.inl ⟨hentry', he⟩)]
      exact Or.inr ⟨_, hall, rfl, rfl⟩
    · rw [ParseError.eq_exhausted_iff.2 (Or.inr ⟨hpolicy, hfirst⟩)]
      exact Or.inr ⟨_, hall, rfl, rfl⟩

/-- A raw alternative that fails far from where it was entered moves neither the cursor of the next
one nor that of the choice. -/
example :
    let g : Grammar Char Nat := ⟨[], .furthest⟩
    let ts : List (Token Char) := [⟨'a', "a", ⟨⟨0, 0⟩, ⟨0, 1⟩⟩, 0⟩]
    let astray : Rule Char Nat := .failing false "astray" none 3
    let mark : Char → Rule Char Nat := fun kind => .token kind fun _ => .ok 0
    g.EndsWith ts (.choice [astray, mark 'a'], 0) (.ok 0) 1 ∧
      g.EndsWith ts (.choice [astray, mark 'b'], 0)
        (.error (.backtrack (.ofReason (.custom "astray")))) 0 :=
  ⟨⟨_, ⟨2, rfl⟩, rfl, rfl⟩, ⟨_, ⟨2, rfl⟩, rfl, rfl⟩⟩

/-! ### Choices among choices -/

theorem exists_forall₂_balksWith_iff : (∃ errors, List.Forall₂ (g.BalksWith ts p) xs errors) ↔
    ∀ x ∈ xs, ∃ e, g.BalksWith ts p x e := by
  induction xs with
  | nil => simp
  | cons x xs ih =>
    rw [List.forall_mem_cons, ← ih]
    constructor
    · rintro ⟨errors, hall⟩
      obtain ⟨e, errors, hx, hxs, -⟩ := List.forall₂_cons_left_iff.1 hall
      exact ⟨⟨e, hx⟩, errors, hxs⟩
    · rintro ⟨⟨e, hx⟩, errors, hxs⟩
      exact ⟨e :: errors, .cons hx hxs⟩

theorem exists_balksWith_choice_iff : (∃ e, g.BalksWith ts p (.choice ys) e) ↔
    ∀ y ∈ ys, ∃ e, g.BalksWith ts p y e := by
  rw [← exists_forall₂_balksWith_iff]
  constructor
  · rintro ⟨e, he⟩
    obtain ⟨errors, hall, -⟩ := balksWith_choice_iff.1 he
    exact ⟨errors, hall⟩
  · rintro ⟨errors, hall⟩
    exact ⟨_, balksWith_choice_iff.2 ⟨errors, hall, rfl⟩⟩

/-- A choice inside settles a choice as its alternatives would. -/
theorem settles_choice_iff : g.Settles ts p (.choice ys) o q ↔ g.Settled ts p ys o q := by
  constructor
  · rintro (h | h)
    · obtain hsettled | ⟨_, _, ho, -⟩ := endsWith_choice_iff.1 h
      · exact hsettled
      · nomatch ho
    · obtain hsettled | ⟨_, _, ho, -⟩ := endsWith_choice_iff.1 h
      · -- a cut leaves the cursor of either choice where it was
        obtain ⟨before, a, after, hys, hbefore, ha⟩ := hsettled
        cases ha with
        | cut ha => exact ⟨before, a, after, hys, hbefore, .cut ha⟩
      · obtain ho := Except.error.inj ho
        nomatch ho
  · intro h
    have hends := endsWith_choice_iff.2 (Or.inl h)
    obtain ⟨_, _, _, _, _, ha⟩ := h
    cases ha with
    | value _ => exact .value hends
    | cut _ => exact .cut hends

/-- The error of a choice inside stands for those of its alternatives. -/
theorem exhausted_choice_cons_iff (hys : ys ≠ []) {best : Option ParseError} :
    g.Exhausted ts p best (.choice ys :: zs) o q ↔ g.Exhausted ts p best (ys ++ zs) o q := by
  have hbest {errors : List ParseError} (hall : List.Forall₂ (g.BalksWith ts p) ys errors) :
      g.Exhausted ts p
          (some (furtherOf best (exhausted g.policy (furthest none errors) ts p))) zs o q ↔
        g.Exhausted ts p (furthest best errors) zs o q := by
    cases hpolicy : g.policy with
    | entry =>
      -- no error is kept that anybody asks for
      simp only [Exhausted, exhausted, hpolicy]
    | furthest =>
      have hne : errors ≠ [] := fun h => hys (List.forall₂_nil_right_iff.1 (h ▸ hall))
      obtain ⟨e, he, -⟩ := ParseError.exists_firstFurthest hne
      rw [he, ParseError.furthest_of_eq_some best he]
      rfl
  rw [exhausted_cons_iff, exhausted_append_iff]
  constructor
  · rintro ⟨e, he, hzs⟩
    obtain ⟨errors, hall, rfl⟩ := balksWith_choice_iff.1 he
    exact ⟨errors, hall, (hbest hall).1 hzs⟩
  · rintro ⟨errors, hall, hzs⟩
    exact ⟨_, balksWith_choice_iff.2 ⟨errors, hall, rfl⟩, (hbest hall).2 hzs⟩

/-- A choice among the alternatives of another one, if it has any itself, may be made at once:
nothing changes in where the choice ends, in its value or its failure. -/
theorem choice_flatten (hys : ys ≠ []) :
    g.EndsWith ts (.choice (xs ++ [.choice ys] ++ zs), p) o q ↔
      g.EndsWith ts (.choice (xs ++ ys ++ zs), p) o q := by
  rw [endsWith_choice_iff, endsWith_choice_iff, List.append_assoc, List.append_assoc,
    List.singleton_append]
  refine or_congr ?_ ?_
  · rw [settled_append_iff, settled_append_iff, settled_append_iff, settled_cons_iff,
      settles_choice_iff, exists_balksWith_choice_iff]
  · rw [exhausted_append_iff, exhausted_append_iff]
    exact exists_congr fun errors => and_congr_right fun _ => exhausted_choice_cons_iff hys

/-- Three alternatives that come equally far, two of them in a choice inside: the error is that of
the first. -/
theorem choice_flatten_tie :
    let mark : Char → Rule Char Nat := fun kind => .token kind fun _ => .ok 0
    let pair : Char → Rule Char Nat := fun kind =>
      .sequence [mark 'a', .label kind.toString (mark kind)] fun _ => .ok 1
    let g : Grammar Char Nat := ⟨[], .furthest⟩
    let ts : List (Token Char) := ['a', 'x'].zipIdx.map fun (kind, i) =>
      ⟨kind, kind.toString, ⟨⟨0, i⟩, ⟨0, i + 1⟩⟩, i⟩
    let e : ParseError := ⟨.expected "b" (some "x"), some ⟨0, 1⟩, some ⟨1, 1⟩⟩
    [pair 'b', pair 'c'] ≠ [] ∧
      g.EndsWith ts (.choice ([mark 'y'] ++ [pair 'b', pair 'c'] ++ [pair 'd']), 0)
        (.error (.backtrack e)) 0 ∧
      g.EndsWith ts (.choice ([mark 'y'] ++ [.choice [pair 'b', pair 'c']] ++ [pair 'd']), 0)
        (.error (.backtrack e)) 0 := by
  intro mark pair g ts e
  have hys : [pair 'b', pair 'c'] ≠ [] := nofun
  have hflat : g.EndsWith ts (.choice ([mark 'y'] ++ [pair 'b', pair 'c'] ++ [pair 'd']), 0)
      (.error (.backtrack e)) 0 := ⟨_, ⟨4, rfl⟩, rfl, rfl⟩
  exact ⟨hys, hflat, (choice_flatten hys).2 hflat⟩

end Grammar

end Descent
