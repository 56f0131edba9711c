import Descent.Regex.Match

/-!
# Names of groups

A match tells which named groups it has been through. These are groups of the expression that has
matched (`Regex.groups_subset_names`): a name is put on record only where a thread leaves the group
that bears it, and from there the record is handed on as it is.
-/

namespace Descent.Regex

/-- The names of the groups of an expression. -/
def names : Regex → List (List Char)
  | empty | one _ | anchor _ => []
  | seq first second | alt first second => first.names ++ second.names
  | group name body => name.toList ++ body.names
  | optional body _ | star body _ | plus body _ => body.names

variable {ns : List (List Char)}

/-- Whether no names but those given are on record. -/
structure Reach.Keeps (ns : List (List Char)) (r : Reach) : Prop where
  before : ∀ t ∈ r.before, t.groups ⊆ ns
  exit : ∀ e ∈ r.exit?, e.groups ⊆ ns
  behind : ∀ t ∈ r.behind, t.groups ⊆ ns

namespace Reach

variable {a b : Reach} {here : Pass}

theorem keeps_nowhere : Keeps ns nowhere := ⟨nofun, nofun, nofun⟩

theorem keeps_leave (h : here.groups ⊆ ns) : Keeps ns (leave here) := by
  refine ⟨nofun, ?_, nofun⟩
  intro e he
  obtain rfl := Option.some.inj he
  exact h

theorem keeps_wait {groups : List (List Char)} (h : groups ⊆ ns) : Keeps ns (wait groups) := by
  refine ⟨?_, nofun, nofun⟩
  intro t ht
  obtain rfl := List.mem_singleton.1 ht
  exact h

theorem Keeps.threads (h : a.Keeps ns) : ∀ t ∈ a.threads, t.groups ⊆ ns :=
  List.forall_mem_append.2 ⟨h.before, h.behind⟩

theorem Keeps.closed (h : a.Keeps ns) : a.closed.Keeps ns := ⟨h.threads, nofun, nofun⟩

theorem Keeps.orElse (ha : a.Keeps ns) (hb : b.Keeps ns) : (a.orElse b).Keeps ns := by
  unfold Reach.orElse
  cases hexit : a.exit? with
  | some exit =>
    have hkeep := ha.exit
    rw [hexit] at hkeep
    exact ⟨ha.before, hkeep, List.forall_mem_append.2 ⟨ha.behind, hb.threads⟩⟩
  | none => exact ⟨List.forall_mem_append.2 ⟨ha.threads, hb.before⟩, hb.exit, hb.behind⟩

theorem Keeps.choice (greedy : Bool) (ha : a.Keeps ns) (hb : b.Keeps ns) :
    (choice greedy a b).Keeps ns := by
  cases greedy with
  | true => exact ⟨(ha.orElse hb).before, (ha.orElse hb).exit, (ha.orElse hb).behind⟩
  | false => exact ⟨(hb.orElse ha).before, (hb.orElse ha).exit, (hb.orElse ha).behind⟩

theorem Keeps.andThen (ha : a.Keeps ns) {next : Pass → Reach}
    (hnext : ∀ e, e.groups ⊆ ns → (next e).Keeps ns) : (a.andThen next).Keeps ns := by
  unfold Reach.andThen
  cases hexit : a.exit? with
  | none => exact ha
  | some exit =>
    have hb : (next exit).Keeps ns := hnext exit (ha.exit exit hexit)
    exact ⟨List.forall_mem_append.2 ⟨ha.before, hb.before⟩, hb.exit,
      List.forall_mem_append.2 ⟨hb.behind, ha.behind⟩⟩

theorem Keeps.within (ha : a.Keeps ns) (side : Side) (trail : Trail) :
    (a.within side trail).Keeps ns := by
  refine ⟨List.forall_mem_map.2 ha.before, ?_, List.forall_mem_map.2 ha.behind⟩
  intro e he
  obtain ⟨e', he', rfl⟩ := Option.map_eq_some_iff.1 he
  exact ha.exit e' he'

theorem Keeps.named (ha : a.Keeps ns) {name : Option (List Char)} (hname : name.toList ⊆ ns) :
    (a.named name).Keeps ns := by
  refine ⟨ha.before, ?_, ha.behind⟩
  intro e he
  obtain ⟨e', he', rfl⟩ := Option.map_eq_some_iff.1 he
  have hnew : name.toList.filter (!e'.groups.contains ·) ⊆ ns :=
    fun n hn => hname ((List.mem_filter.1 hn).1)
  exact List.append_subset.2 ⟨hnew, ha.exit e' he'⟩

theorem keeps_turn (greedy : Bool) {again : Pass → Reach}
    (hagain : ∀ e, e.groups ⊆ ns → (again e).Keeps ns) (h : here.groups ⊆ ns) :
    (turn greedy again here).Keeps ns := by
  unfold turn
  split
  · exact keeps_nowhere
  · let marked : Pass := { here with trail := here.trail.mark }
    exact (hagain marked h).closed.choice greedy (keeps_leave h)

end Reach

theorem keeps_enterPart {start : Pass → Reach}
    (hstart : ∀ here, here.groups ⊆ ns → (start here).Keeps ns) (side : Side) (here : Pass)
    (h : here.groups ⊆ ns) : (enterPart side start here).Keeps ns :=
  (hstart { here with trail := here.trail.part side } h).within side here.trail

/-- On entering an expression only its own names are added. -/
theorem keeps_start (p : Place) {r : Regex} (hr : r.names ⊆ ns) (here : Pass)
    (h : here.groups ⊆ ns) : (r.start p here).Keeps ns := by
  induction r generalizing here with
  | empty => exact Reach.keeps_leave h
  | one chars =>
    rw [start_one]
    split
    · exact Reach.keeps_wait h
    · exact Reach.keeps_nowhere
  | anchor a =>
    rw [start_anchor]
    split
    · exact Reach.keeps_leave h
    · exact Reach.keeps_nowhere
  | seq first second ihfirst ihsecond =>
    obtain ⟨hfirst, hsecond⟩ := List.append_subset.1 hr
    exact (keeps_enterPart (ihfirst hfirst) .first here h).andThen
      (keeps_enterPart (ihsecond hsecond) .second)
  | alt first second ihfirst ihsecond =>
    obtain ⟨hfirst, hsecond⟩ := List.append_subset.1 hr
    rw [start_alt]
    split
    · exact Reach.keeps_nowhere
    · let marked : Pass := { here with trail := here.trail.mark }
      exact (keeps_enterPart (ihfirst hfirst) .first marked h).choice true
        (keeps_enterPart (ihsecond hsecond) .second marked h)
  | group name body ih =>
    obtain ⟨hname, hbody⟩ := List.append_subset.1 hr
    exact (keeps_enterPart (ih hbody) .first here h).named hname
  | optional body greedy ih =>
    rw [start_optional]
    split
    · exact Reach.keeps_nowhere
    · let marked : Pass := { here with trail := here.trail.mark }
      exact (keeps_enterPart (ih hr) .first marked h).choice greedy
        (Reach.keeps_leave h)
  | star body greedy ih =>
    exact Reach.keeps_turn greedy (keeps_enterPart (ih hr) .first) h
  | plus body greedy ih =>
    exact (keeps_enterPart (ih hr) .first here h).andThen fun e =>
      Reach.keeps_turn greedy (keeps_enterPart (ih hr) .first)

/-- Behind a character, too, only names of the expression are added. -/
theorem keeps_resume (p : Place) {r : Regex} (hr : r.names ⊆ ns) (spot : Spot) (here : Pass)
    (h : here.groups ⊆ ns) : (r.resume p spot here).Keeps ns := by
  induction r generalizing spot here with
  | empty => exact Reach.keeps_nowhere
  | one chars =>
    cases spot with
    | nil => exact Reach.keeps_leave h
    | cons => exact Reach.keeps_nowhere
  | anchor a => exact Reach.keeps_nowhere
  | seq first second ihfirst ihsecond =>
    obtain ⟨hfirst, hsecond⟩ := List.append_subset.1 hr
    cases spot with
    | nil => exact Reach.keeps_nowhere
    | cons side spot =>
      cases side with
      | first =>
        exact (keeps_enterPart (ihfirst hfirst spot) .first here h).andThen
          (keeps_enterPart (keeps_start p hsecond) .second)
      | second => exact keeps_enterPart (ihsecond hsecond spot) .second here h
  | alt first second ihfirst ihsecond =>
    obtain ⟨hfirst, hsecond⟩ := List.append_subset.1 hr
    cases spot with
    | nil => exact Reach.keeps_nowhere
    | cons side spot =>
      cases side with
      | first => exact keeps_enterPart (ihfirst hfirst spot) .first here h
      | second => exact keeps_enterPart (ihsecond hsecond spot) .second here h
  | group name body ih =>
    obtain ⟨hname, hbody⟩ := List.append_subset.1 hr
    cases spot with
    | nil => exact Reach.keeps_nowhere
    | cons side spot =>
      cases side with
      | first => exact (keeps_enterPart (ih hbody spot) .first here h).named hname
      | second => exact Reach.keeps_nowhere
  | optional body greedy ih =>
    cases spot with
    | nil => exact Reach.keeps_nowhere
    | cons side spot =>
      cases side with
      | first => exact keeps_enterPart (ih hr spot) .first here h
      | second => exact Reach.keeps_nowhere
  | star body greedy ih | plus body greedy ih =>
    cases spot with
    | nil => exact Reach.keeps_nowhere
    | cons side spot =>
      cases side with
      | first =>
        exact (keeps_enterPart (ih hr spot) .first here h).andThen fun e =>
          Reach.keeps_turn greedy (keeps_enterPart (keeps_start p (r := body) hr) .first)
      | second => exact Reach.keeps_nowhere

/-! ## Matches -/

theorem Reach.Keeps.cut {r : Reach} (h : r.Keeps ns) :
    (∀ t ∈ r.cut.1, t.groups ⊆ ns) ∧ ∀ groups ∈ r.cut.2, groups ⊆ ns := by
  unfold Reach.cut
  cases hexit : r.exit? with
  | none => exact ⟨h.threads, nofun⟩
  | some exit =>
    refine ⟨h.before, ?_⟩
    intro groups hgroups
    obtain rfl := Option.some.inj hgroups
    exact h.exit exit hexit

theorem keeps_advance {r : Regex} (hr : r.names ⊆ ns) (p : Place) (trail : Trail)
    {ts : List Thread} (hts : ∀ t ∈ ts, t.groups ⊆ ns) :
    (∀ t ∈ (r.advance p trail ts).1, t.groups ⊆ ns) ∧
      ∀ groups ∈ (r.advance p trail ts).2, groups ⊆ ns := by
  induction ts generalizing trail with
  | nil => exact ⟨nofun, nofun⟩
  | cons t ts ih =>
    obtain ⟨ht, hrest⟩ := List.forall_mem_cons.1 hts
    have hcut := (keeps_resume p hr t.spot ⟨t.groups, trail⟩ ht).cut
    rw [advance]
    cases hreach : (r.resume p t.spot ⟨t.groups, trail⟩).cut with
    | mk threads groups? =>
      rw [hreach] at hcut
      cases groups? with
      | some groups => exact hcut
      | none =>
        obtain ⟨hothers, hfound⟩ := ih _ hrest
        exact ⟨List.forall_mem_append.2 ⟨hcut.1, hothers⟩, hfound⟩

theorem keeps_follow {r : Regex} (hr : r.names ⊆ ns) {found? : Option Match} (length : Nat)
    {ts : List Thread} (before after : List Char) (hfound : ∀ m ∈ found?, m.groups ⊆ ns)
    (hts : ∀ t ∈ ts, t.groups ⊆ ns) :
    ∀ m ∈ r.follow found? length ts before after, m.groups ⊆ ns := by
  induction after generalizing found? length ts before with
  | nil => exact hfound
  | cons c rest ih =>
    obtain ⟨hthreads, hgroups⟩ := keeps_advance hr ⟨c :: before, rest⟩ .fresh hts
    unfold follow
    split
    · exact hfound
    · -- a match that ends here takes the place of what has been found
      refine ih _ _ ?_ hthreads
      intro m hm
      rw [Option.mem_def, Option.orElse_eq_orElse, Option.orElse_eq_or,
        Option.or_eq_some_iff] at hm
      rcases hm with hhere | ⟨-, hm⟩
      · obtain ⟨groups, hsome, rfl⟩ := Option.map_eq_some_iff.1 hhere
        exact hgroups groups hsome
      · exact hfound m hm

/-- A match has been through groups of its expression only. -/
theorem groups_subset_names {r : Regex} {p : Place} {m : Match} (h : r.matchAt? p = some m) :
    m.groups ⊆ r.names := by
  have hstart : (r.start p ⟨[], .fresh⟩).Keeps r.names :=
    keeps_start p (List.Subset.refl _) _ (List.nil_subset _)
  obtain ⟨hthreads, hgroups⟩ := hstart.cut
  refine keeps_follow (List.Subset.refl _) 0 p.before p.after ?_ hthreads m h
  intro n hn
  obtain ⟨groups, hsome, rfl⟩ := Option.map_eq_some_iff.1 hn
  exact hgroups groups hsome

end Descent.Regex
