import Descent.Regex.Match

/-!
# The texts that an expression describes

Conditions on places and preferences left aside, an expression describes a set of texts, by
recursion on how it is composed (`Regex.Describes`). What a match takes is one of them
(`Regex.describes_of_matchAt?`).

A match goes by spots: each character that it takes was waited for at a spot. What may follow such a
character, up to the end of the expression, is described by recursion as well (`Regex.Completes`),
and a step of a match from spot to spot takes one character off it.
-/

namespace Descent.Regex

/-- Whether an expression describes a text. -/
def Describes : Regex → List Char → Prop
  | empty, text | anchor _, text => text = []
  | one chars, text => ∃ c, chars.holds c = true ∧ text = [c]
  | seq first second, text => ∃ s t, text = s ++ t ∧ first.Describes s ∧ second.Describes t
  | alt first second, text => first.Describes text ∨ second.Describes text
  | group _ body, text => body.Describes text
  | optional body _, text => text = [] ∨ body.Describes text
  | star body _, text => ∃ rounds : List (List Char),
    text = rounds.flatten ∧ ∀ round ∈ rounds, body.Describes round
  | plus body _, text => ∃ rounds : List (List Char), rounds ≠ [] ∧
    text = rounds.flatten ∧ ∀ round ∈ rounds, body.Describes round

/-- Whether a text leads to the end of an expression from behind the character at a spot. -/
def Completes : Regex → Spot → List Char → Prop
  | one _, [], text => text = []
  | seq first second, .first :: spot, text =>
    ∃ s t, text = s ++ t ∧ first.Completes spot s ∧ second.Describes t
  | seq _ second, .second :: spot, text => second.Completes spot text
  | alt first _, .first :: spot, text => first.Completes spot text
  | alt _ second, .second :: spot, text => second.Completes spot text
  | group _ body, .first :: spot, text | optional body _, .first :: spot, text =>
    body.Completes spot text
  | star body _, .first :: spot, text | plus body _, .first :: spot, text =>
    ∃ s rounds, text = s ++ List.flatten rounds ∧ body.Completes spot s ∧
      ∀ round ∈ rounds, body.Describes round
  | _, _, _ => False

/-! ## What is reached -/

section

variable (next? : Option Char) (completes : Spot → List Char → Prop) (goal : List Char → Prop)

/-- Whether a thread leads to texts of a kind only, over the next character and what completes the
expression behind it. -/
def Thread.Leads (t : Thread) : Prop :=
  ∀ c ∈ next?, ∀ text, completes t.spot text → goal (c :: text)

/-- Whether the threads of what is reached lead to texts of a kind only, and there is a way out
under a given condition only. -/
structure Reach.Leads (ends : Prop) (r : Reach) : Prop where
  before : ∀ t ∈ r.before, t.Leads next? completes goal
  exit : r.exit?.isSome = true → ends
  behind : ∀ t ∈ r.behind, t.Leads next? completes goal

end

namespace Reach

variable {a b : Reach} {next? : Option Char} {completes : Spot → List Char → Prop}
  {goal : List Char → Prop} {ends through : Prop}

theorem leads_nowhere : Leads next? completes goal ends nowhere := ⟨nofun, nofun, nofun⟩

theorem leads_leave (h : ends) (here : Pass) : Leads next? completes goal ends (leave here) :=
  ⟨nofun, fun _ => h, nofun⟩

theorem Leads.threads (h : a.Leads next? completes goal ends) :
    ∀ t ∈ a.threads, t.Leads next? completes goal :=
  List.forall_mem_append.2 ⟨h.before, h.behind⟩

theorem Leads.closed (h : a.Leads next? completes goal through) :
    a.closed.Leads next? completes goal ends :=
  ⟨h.threads, nofun, nofun⟩

theorem Leads.orElse (ha : a.Leads next? completes goal ends)
    (hb : b.Leads next? completes goal ends) : (a.orElse b).Leads next? completes goal ends := by
  unfold Reach.orElse
  cases hexit : a.exit? with
  | some exit =>
    exact ⟨ha.before, fun _ => ha.exit (by rw [hexit]; rfl),
      List.forall_mem_append.2 ⟨ha.behind, hb.threads⟩⟩
  | none => exact ⟨List.forall_mem_append.2 ⟨ha.threads, hb.before⟩, hb.exit, hb.behind⟩

theorem Leads.choice (greedy : Bool) (ha : a.Leads next? completes goal ends)
    (hb : b.Leads next? completes goal ends) :
    (choice greedy a b).Leads next? completes goal ends := by
  cases greedy with
  | true => exact ⟨(ha.orElse hb).before, (ha.orElse hb).exit, (ha.orElse hb).behind⟩
  | false => exact ⟨(hb.orElse ha).before, (hb.orElse ha).exit, (hb.orElse ha).behind⟩

theorem Leads.andThen (through : Prop) (ha : a.Leads next? completes goal through)
    {next : Pass → Reach}
    (hnext : through → ∀ e, (next e).Leads next? completes goal ends) :
    (a.andThen next).Leads next? completes goal ends := by
  unfold Reach.andThen
  cases hexit : a.exit? with
  | none =>
    refine ⟨ha.before, fun h => ?_, ha.behind⟩
    rw [hexit] at h
    nomatch h
  | some exit =>
    have hb := hnext (ha.exit (by rw [hexit]; rfl)) exit
    exact ⟨List.forall_mem_append.2 ⟨ha.before, hb.before⟩, hb.exit,
      List.forall_mem_append.2 ⟨hb.behind, ha.behind⟩⟩

theorem Leads.within {side : Side}
    (ha : a.Leads next? (fun spot => completes (side :: spot)) goal ends) (trail : Trail) :
    (a.within side trail).Leads next? completes goal ends :=
  ⟨List.forall_mem_map.2 ha.before,
    fun h => ha.exit (by rwa [Reach.within, Option.isSome_map] at h),
    List.forall_mem_map.2 ha.behind⟩

theorem Leads.named (ha : a.Leads next? completes goal ends) (name : Option (List Char)) :
    (a.named name).Leads next? completes goal ends :=
  ⟨ha.before, fun h => ha.exit (by rwa [Reach.named, Option.isSome_map] at h), ha.behind⟩

theorem leads_turn (greedy : Bool) (through : Prop) {again : Pass → Reach}
    (hagain : ∀ e, (again e).Leads next? completes goal through) (h : ends) (here : Pass) :
    (turn greedy again here).Leads next? completes goal ends := by
  unfold turn
  split
  · exact leads_nowhere
  · exact (hagain _).closed.choice greedy (leads_leave h _)

/-- What leads to texts of one kind leads to those of another as well, if every way of completing
the latter comes from one of the former. -/
theorem Leads.imp {completes' : Spot → List Char → Prop} {goal' : List Char → Prop} {ends' : Prop}
    (ha : a.Leads next? completes goal ends) (hends : ends → ends')
    (hgoal : ∀ c spot, (∀ text, completes spot text → goal (c :: text)) →
      ∀ text, completes' spot text → goal' (c :: text)) :
    a.Leads next? completes' goal' ends' := by
  have himp {t : Thread} (h : t.Leads next? completes goal) : t.Leads next? completes' goal' :=
    fun c hc => hgoal c t.spot (h c hc)
  exact ⟨fun t ht => himp (ha.before t ht), fun h => hends (ha.exit h),
    fun t ht => himp (ha.behind t ht)⟩

end Reach

/-! ## Entering and going on -/

/-- On entering an expression, what is reached leads to texts that it describes. -/
theorem leads_start (p : Place) (r : Regex) (here : Pass) :
    (r.start p here).Leads p.right? r.Completes r.Describes (r.Describes []) := by
  induction r generalizing here with
  | empty => exact Reach.leads_leave rfl here
  | one chars =>
    rw [start_one]
    split
    case isTrue htakes =>
      rw [Bool.and_eq_true] at htakes
      refine ⟨fun t ht c hc text htext => ?_, nofun, nofun⟩
      obtain rfl := List.mem_singleton.1 ht
      rw [Option.mem_def.1 hc] at htakes
      exact ⟨c, htakes.2, by rw [show text = [] from htext]⟩
    case isFalse => exact Reach.leads_nowhere
  | anchor a =>
    rw [start_anchor]
    split
    · exact Reach.leads_leave rfl here
    · exact Reach.leads_nowhere
  | seq first second ihfirst ihsecond =>
    -- the second part is reached where the first one describes the empty text
    refine Reach.Leads.andThen (first.Describes [])
      (.within ((ihfirst _).imp id fun c spot hfirst => ?_) _) fun hfirst e =>
      .within ((ihsecond _).imp (fun hsecond => ⟨[], [], rfl, hfirst, hsecond⟩)
        fun c spot hsecond text htext => ⟨[], c :: text, rfl, hfirst, hsecond text htext⟩) _
    rintro _ ⟨s, t, rfl, hs, ht⟩
    exact ⟨c :: s, t, rfl, hfirst s hs, ht⟩
  | alt first second ihfirst ihsecond =>
    rw [start_alt]
    split
    · exact Reach.leads_nowhere
    · exact .choice true
        (.within ((ihfirst _).imp Or.inl fun c spot h text htext => Or.inl (h text htext)) _)
        (.within ((ihsecond _).imp Or.inr fun c spot h text htext => Or.inr (h text htext)) _)
  | group name body ih => exact .named (.within (ih _) _) name
  | optional body greedy ih =>
    rw [start_optional]
    split
    · exact Reach.leads_nowhere
    · exact .choice greedy
        (.within ((ih _).imp (fun _ => Or.inl rfl)
          fun c spot h text htext => Or.inr (h text htext)) _)
        (Reach.leads_leave (Or.inl rfl) _)
  | star body greedy ih =>
    refine Reach.leads_turn greedy (body.Describes [])
      (fun e => .within ((ih _).imp id fun c spot h => ?_) _) ⟨[], rfl, nofun⟩ here
    rintro _ ⟨s, rounds, rfl, hs, hrounds⟩
    exact ⟨(c :: s) :: rounds, rfl, List.forall_mem_cons.2 ⟨h s hs, hrounds⟩⟩
  | plus body greedy ih =>
    have hbody (e : Pass) : (enterPart .first (start p body) e).Leads p.right?
        (plus body greedy).Completes (plus body greedy).Describes (body.Describes []) := by
      refine .within ((ih _).imp id fun c spot h => ?_) _
      rintro _ ⟨s, rounds, rfl, hs, hrounds⟩
      exact ⟨(c :: s) :: rounds, List.cons_ne_nil _ _, rfl,
        List.forall_mem_cons.2 ⟨h s hs, hrounds⟩⟩
    -- the first round and every other one are entered alike
    refine Reach.Leads.andThen _ (hbody here) fun hnil e => Reach.leads_turn greedy _ hbody ?_ e
    exact ⟨[[]], List.cons_ne_nil _ _, rfl, List.forall_mem_singleton.2 hnil⟩

/-- Behind a character, what is reached leads to texts that complete the expression. -/
theorem leads_resume (p : Place) (r : Regex) (spot : Spot) (here : Pass) :
    (r.resume p spot here).Leads p.right? r.Completes (r.Completes spot) (r.Completes spot []) := by
  induction r generalizing spot here with
  | empty | anchor a => exact Reach.leads_nowhere
  | one chars =>
    cases spot with
    | nil => exact Reach.leads_leave rfl here
    | cons => exact Reach.leads_nowhere
  | seq first second ihfirst ihsecond =>
    cases spot with
    | nil => exact Reach.leads_nowhere
    | cons side spot =>
      cases side with
      | first =>
        -- the first part goes on, or it is over and the second one is entered
        refine Reach.Leads.andThen (first.Completes spot [])
          (.within ((ihfirst spot _).imp id fun c spot' hfirst => ?_) _) fun hfirst e =>
          .within ((leads_start p second _).imp (fun hsecond => ⟨[], [], rfl, hfirst, hsecond⟩)
            fun c spot' hsecond text htext => ⟨[], c :: text, rfl, hfirst, hsecond text htext⟩) _
        rintro _ ⟨s, t, rfl, hs, ht⟩
        exact ⟨c :: s, t, rfl, hfirst s hs, ht⟩
      | second => exact .within (ihsecond spot _) _
  | alt first second ihfirst ihsecond =>
    cases spot with
    | nil => exact Reach.leads_nowhere
    | cons side spot =>
      cases side with
      | first => exact .within (ihfirst spot _) _
      | second => exact .within (ihsecond spot _) _
  | group name body ih =>
    cases spot with
    | nil => exact Reach.leads_nowhere
    | cons side spot =>
      cases side with
      | first => exact .named (.within (ih spot _) _) name
      | second => exact Reach.leads_nowhere
  | optional body greedy ih =>
    cases spot with
    | nil => exact Reach.leads_nowhere
    | cons side spot =>
      cases side with
      | first => exact .within (ih spot _) _
      | second => exact Reach.leads_nowhere
  | star body greedy ih | plus body greedy ih =>
    cases spot with
    | nil => exact Reach.leads_nowhere
    | cons side spot =>
      cases side with
      | first =>
        -- the round goes on, or it is over and another one is entered
        refine Reach.Leads.andThen (body.Completes spot [])
          (.within ((ih spot _).imp id fun c spot' h => ?_) _) fun hnil e =>
          Reach.leads_turn greedy (body.Describes [])
            (fun e => .within ((leads_start p body _).imp id fun c spot' h => ?_) _)
            ⟨[], [], rfl, hnil, nofun⟩ e
        · rintro _ ⟨s, rounds, rfl, hs, hrounds⟩
          exact ⟨c :: s, rounds, rfl, h s hs, hrounds⟩
        · rintro _ ⟨s, rounds, rfl, hs, hrounds⟩
          exact ⟨[], (c :: s) :: rounds, rfl, hnil, List.forall_mem_cons.2 ⟨h s hs, hrounds⟩⟩
      | second => exact Reach.leads_nowhere

/-! ## Matches -/

theorem Reach.Leads.cut {r : Reach} {next? : Option Char} {completes : Spot → List Char → Prop}
    {goal : List Char → Prop} {ends : Prop} (h : r.Leads next? completes goal ends) :
    (∀ t ∈ r.cut.1, t.Leads next? completes goal) ∧ (r.cut.2.isSome = true → ends) := by
  unfold Reach.cut
  cases hexit : r.exit? with
  | none => exact ⟨h.threads, nofun⟩
  | some exit => exact ⟨h.before, fun _ => h.exit (by rw [hexit]; rfl)⟩

/-- Threads that have been led to a place from behind a character lead on to the same texts. -/
theorem leads_advance {r : Regex} (p : Place) (trail : Trail) {ts : List Thread}
    (goal : List Char → Prop) (hts : ∀ t ∈ ts, ∀ text, r.Completes t.spot text → goal text) :
    (∀ t ∈ (r.advance p trail ts).1, t.Leads p.right? r.Completes goal) ∧
      ((r.advance p trail ts).2.isSome = true → goal []) := by
  induction ts generalizing trail with
  | nil => exact ⟨nofun, nofun⟩
  | cons t ts ih =>
    obtain ⟨ht, hrest⟩ := List.forall_mem_cons.1 hts
    have hresume :
        (r.resume p t.spot ⟨t.groups, trail⟩).Leads p.right? r.Completes goal (goal []) :=
      (leads_resume p r t.spot _).imp (ht []) fun c spot h text htext => ht _ (h text htext)
    have hcut := hresume.cut
    rw [advance]
    cases hreach : (r.resume p t.spot ⟨t.groups, trail⟩).cut with
    | mk threads groups? =>
      rw [hreach] at hcut
      -- a thread that comes to the end leaves out those behind it
      cases groups? with
      | some groups => exact hcut
      | none =>
        obtain ⟨hothers, hends⟩ := ih _ hrest
        exact ⟨List.forall_mem_append.2 ⟨hcut.1, hothers⟩, hends⟩

/-- What a match under way ends up with is described, if its threads lead to described texts behind
what has been taken. -/
theorem describes_of_follow {r : Regex} {found? : Option Match} (taken : List Char)
    {ts : List Thread} (before after : List Char)
    (hfound : ∀ m ∈ found?, r.Describes ((taken ++ after).take m.length))
    (hts : ∀ t ∈ ts, t.Leads after.head? r.Completes fun text => r.Describes (taken ++ text)) :
    ∀ m ∈ r.follow found? taken.length ts before after,
      r.Describes ((taken ++ after).take m.length) := by
  -- a step moves one character from `after` to `taken`, and the text of both stays the same
  induction after generalizing found? taken ts before with
  | nil => exact hfound
  | cons c rest ih =>
    unfold follow
    split
    · exact hfound
    · have htaken : taken ++ c :: rest = (taken ++ [c]) ++ rest := List.append_cons taken c rest
      have hlength : (taken ++ [c]).length = taken.length + 1 := by
        rw [List.length_append, List.length_singleton]
      obtain ⟨hthreads, hends⟩ := leads_advance ⟨c :: before, rest⟩ .fresh
        (fun text => r.Describes (taken ++ c :: text)) fun t ht => hts t ht c rfl
      rw [htaken] at hfound ⊢
      rw [← hlength]
      refine ih _ _ ?_ fun t ht d hd text htext => ?_
      · -- a match that ends here takes the place of what has been found
        intro m hm
        rw [Option.mem_def, Option.orElse_eq_orElse, Option.orElse_eq_or,
          Option.or_eq_some_iff] at hm
        rcases hm with hhere | ⟨-, hm⟩
        · obtain ⟨groups, hsome, rfl⟩ := Option.map_eq_some_iff.1 hhere
          rw [List.take_left]
          exact hends (by rw [hsome]; rfl)
        · exact hfound m hm
      · have hmore : r.Describes (taken ++ c :: d :: text) := hthreads t ht d hd text htext
        rwa [List.append_cons] at hmore

/-- What a match takes is one of the texts that the expression describes. -/
theorem describes_of_matchAt? {r : Regex} {p : Place} {m : Match} (h : r.matchAt? p = some m) :
    r.Describes (p.after.take m.length) := by
  obtain ⟨hthreads, hends⟩ := (leads_start p r ⟨[], .fresh⟩).cut
  refine describes_of_follow [] p.before p.after ?_ hthreads m h
  intro n hn
  obtain ⟨groups, hsome, rfl⟩ := Option.map_eq_some_iff.1 hn
  exact hends (Option.isSome_iff_exists.2 ⟨groups, hsome⟩)

end Descent.Regex
