import Descent.Proofs.Regex.Sight
import Descent.Proofs.Regex.StandIn

/-!
# Expressions that are matched by a single thread

Where an expression never waits for the next character at more than one spot, matching it is walking
from spot to spot (`Regex.walk`), and its match at a place is the longest beginning of the text with
which the walk can stop (`Regex.matchAt?_eq_some_iff`).

Whether an expression is of this kind is found out by trying a character of each sort at every spot
(`Regex.isSingle`), provided that it is written with ASCII characters, digits and white space and
has no anchors.
-/

namespace Descent.Regex

variable {r : Regex}

/-! ## Walking -/

/-- How far a match has come: nowhere yet, or over the character at a spot. -/
abbrev Stage := Option Spot

/-- The spots of an expression. -/
def spots : Regex → List Spot
  | empty | anchor _ => []
  | one _ => [[]]
  | seq first second | alt first second =>
    first.spots.map (Side.first :: ·) ++ second.spots.map (Side.second :: ·)
  | group _ body | optional body _ | star body _ | plus body _ =>
    body.spots.map (Side.first :: ·)

/-- The stages of a match. -/
def stages (r : Regex) : List Stage := none :: r.spots.map some

/-- What is reached from a stage with some character next, or at the end of the text: the threads
that go on, and whether the match may stop. -/
def ahead (r : Regex) (stage : Stage) (c? : Option Char) :
    List Thread × Option (List (List Char)) :=
  let p : Place := ⟨[], c?.toList⟩
  match stage with
  | none => (r.start p ⟨[], .fresh⟩).cut
  | some spot => (r.resume p spot ⟨[], .fresh⟩).cut

/-- The spot at which a match waits for the next character. -/
def next? (r : Regex) (stage : Stage) (c : Char) : Option Spot :=
  (r.ahead stage (some c)).1.head?.map Thread.spot

/-- Whether a match may stop at a stage. -/
def stops (r : Regex) (stage : Stage) : Bool := (r.ahead stage none).2.isSome

/-- Where a match comes to over a text. -/
def walk (r : Regex) (stage : Stage) : List Char → Option Stage
  | [] => some stage
  | c :: rest => (r.next? stage c).bind fun spot => walk r (some spot) rest

/-- Whether a match can take a whole text. -/
def accepts (r : Regex) (text : List Char) : Bool := (r.walk none text).any r.stops

/-- What is reached from a stage by one thread at most. -/
def alone (r : Regex) (stage : Stage) (spot? : Option Spot) :
    List Thread × Option (List (List Char)) :=
  (spot?.toList.map fun spot => ⟨spot, []⟩, if r.stops stage then some [] else none)

/-- Characters of all the sorts that an expression tells apart. -/
def sorts (r : Regex) : List Char := CharClass.sorts r.classes

/-- Whether an expression is matched by a single thread, which goes through no named group. -/
def isSingle (r : Regex) : Bool :=
  r.isAnchorless && r.classes.all (·.isPlain) && r.stages.all fun stage =>
    r.ahead stage none = r.alone stage none && r.sorts.all fun c =>
      r.ahead stage (some c) = r.alone stage (r.next? stage c)
        && (r.next? stage c).all fun spot => some spot ∈ r.stages

/-! ## One step -/

theorem ahead_congr (hr : r.isAnchorless = true) {c? d? : Option Char}
    (h : ∀ chars ∈ r.classes, c?.any chars.holds = d?.any chars.holds) (stage : Stage) :
    r.ahead stage c? = r.ahead stage d? := by
  have hsame : ∀ chars ∈ r.classes, (Place.right? ⟨[], c?.toList⟩).any chars.holds
      = (Place.right? ⟨[], d?.toList⟩).any chars.holds := by
    intro chars hchars
    have hright (c? : Option Char) : Place.right? ⟨[], c?.toList⟩ = c? := by cases c? <;> rfl
    rw [hright, hright, h chars hchars]
  cases stage with
  | none => rw [ahead, ahead, start_congr (seesSame_of_isAnchorless hr hsame)]
  | some spot => rw [ahead, ahead, resume_congr (seesSame_of_isAnchorless hr hsame)]

/-- An expression does not tell characters of one sort apart. -/
theorem ahead_eq_of_signature (hr : r.isAnchorless = true) {c d : Char}
    (h : CharClass.signature r.classes d = CharClass.signature r.classes c) (stage : Stage) :
    r.ahead stage (some d) = r.ahead stage (some c) := by
  refine ahead_congr hr (fun chars hchars => ?_) stage
  exact List.map_inj_left.1 h chars hchars

theorem next?_eq_of_signature (hr : r.isAnchorless = true) {c d : Char}
    (h : CharClass.signature r.classes d = CharClass.signature r.classes c) (stage : Stage) :
    r.next? stage d = r.next? stage c :=
  congrArg (fun reached => reached.1.head?.map Thread.spot) (ahead_eq_of_signature hr h stage)

section

variable (hr : r.isSingle = true)

include hr

theorem isAnchorless_of_isSingle : r.isAnchorless = true := by
  rw [isSingle, Bool.and_eq_true, Bool.and_eq_true] at hr
  exact hr.1.1

theorem exists_sort (c : Char) :
    ∃ d ∈ r.sorts, CharClass.signature r.classes d = CharClass.signature r.classes c := by
  rw [isSingle, Bool.and_eq_true, Bool.and_eq_true] at hr
  exact CharClass.exists_sort (List.all_eq_true.1 hr.1.2) c

theorem next?_standIn (stage : Stage) (c : Char) : r.next? stage (standIn c) = r.next? stage c := by
  refine next?_eq_of_signature (isAnchorless_of_isSingle hr) ?_ stage
  rw [isSingle, Bool.and_eq_true, Bool.and_eq_true, List.all_eq_true] at hr
  exact List.map_congr_left fun chars hchars => CharClass.holds_standIn (hr.1.2 chars hchars) c

variable {stage : Stage} (hstage : stage ∈ r.stages)

include hstage

/-- From every stage one thread at most goes on, whatever comes next. -/
theorem ahead_eq (c? : Option Char) :
    r.ahead stage c? = r.alone stage (c?.bind (r.next? stage)) := by
  have hanchorless := isAnchorless_of_isSingle hr
  have hsort := exists_sort hr
  rw [isSingle, Bool.and_eq_true, List.all_eq_true] at hr
  have hsorts := hr.2 stage hstage
  rw [Bool.and_eq_true, decide_eq_true_eq, List.all_eq_true] at hsorts
  cases c? with
  | none => exact hsorts.1
  | some c =>
    -- only one character of each sort has been tried, and one of them is alike
    obtain ⟨d, hd, hsame⟩ := hsort c
    have hthread := hsorts.2 d hd
    rw [Bool.and_eq_true, decide_eq_true_eq, next?_eq_of_signature hanchorless hsame,
      ahead_eq_of_signature hanchorless hsame] at hthread
    exact hthread.1

theorem mem_stages_of_next? {c : Char} {spot : Spot} (h : r.next? stage c = some spot) :
    some spot ∈ r.stages := by
  have hanchorless := isAnchorless_of_isSingle hr
  obtain ⟨d, hd, hsame⟩ := exists_sort hr c
  rw [isSingle, Bool.and_eq_true, List.all_eq_true] at hr
  have hsorts := hr.2 stage hstage
  rw [Bool.and_eq_true, List.all_eq_true] at hsorts
  have hthread := hsorts.2 d hd
  rw [Bool.and_eq_true, next?_eq_of_signature hanchorless hsame, h] at hthread
  exact of_decide_eq_true hthread.2

theorem mem_stages_of_walk {text : List Char} {stop : Stage} (h : r.walk stage text = some stop) :
    stop ∈ r.stages := by
  induction text generalizing stage with
  | nil => exact Option.some.inj h ▸ hstage
  | cons c rest ih =>
    obtain ⟨spot, hspot, h⟩ := Option.bind_eq_some_iff.1 h
    exact ih (mem_stages_of_next? hr hstage hspot) h

end

/-! ## The longest match -/

/-- A match that ends where a stage is reached. -/
def here? (r : Regex) (stage : Stage) (length : Nat) : Option Match :=
  if r.stops stage then some ⟨length, []⟩ else none

/-- How many characters the longest match takes from a stage on. -/
def longest (r : Regex) (stage : Stage) : List Char → Option Nat
  | [] => if r.stops stage then some 0 else none
  | c :: rest =>
    (((r.next? stage c).bind fun spot => longest r (some spot) rest).map (· + 1)).or
      (if r.stops stage then some 0 else none)

theorem right?_glance (c? : Option Char) : Place.right? ⟨[], c?.toList⟩ = c? := by
  cases c? <;> rfl

theorem cut_start (hr : r.isAnchorless = true) (p : Place) :
    (r.start p ⟨[], .fresh⟩).cut = r.ahead none p.right? := by
  rw [ahead, start_congr (seesSame_of_isAnchorless hr fun chars _ => by rw [right?_glance])]

theorem cut_resume (hr : r.isAnchorless = true) (p : Place) (spot : Spot) :
    (r.resume p spot ⟨[], .fresh⟩).cut = r.ahead (some spot) p.right? := by
  rw [ahead, resume_congr (seesSame_of_isAnchorless hr fun chars _ => by rw [right?_glance])]

/-- A single thread goes on as the expression does behind its character. -/
theorem advance_singleton (r : Regex) (p : Place) (spot : Spot) :
    r.advance p .fresh [⟨spot, []⟩] = (r.resume p spot ⟨[], .fresh⟩).cut := by
  rw [advance]
  cases hcut : (r.resume p spot ⟨[], .fresh⟩).cut with
  | mk threads groups? =>
    cases groups? with
    | some groups => rfl
    | none => exact congrArg (·, none) (List.append_nil threads)

theorem follow_of_isSingle (hr : r.isSingle = true) {stage : Stage} (hstage : stage ∈ r.stages)
    (found? : Option Match) (n : Nat) (before after : List Char) :
    r.follow ((r.here? stage n).or found?) n (r.ahead stage after.head?).1 before after
      = ((r.longest stage after).map fun k => ⟨n + k, []⟩).or found? := by
  have hanchorless := isAnchorless_of_isSingle hr
  -- what has been found gives way to a match that stops here, and that to a longer one
  induction after generalizing stage found? n before with
  | nil =>
    rw [follow, longest, here?]
    split <;> rfl
  | cons c rest ih =>
    rw [ahead_eq hr hstage, longest, List.head?_cons, Option.bind_some]
    cases hnext : r.next? stage c with
    | none =>
      rw [here?]
      split <;> rfl
    | some spot =>
      have hspot := mem_stages_of_next? hr hstage hnext
      have hadvance : r.advance ⟨c :: before, rest⟩ .fresh [⟨spot, []⟩]
          = r.alone (some spot) (rest.head?.bind (r.next? (some spot))) := by
        rw [advance_singleton, cut_resume hanchorless]
        exact ahead_eq hr hspot rest.head?
      have hrest := ih hspot ((r.here? stage n).or found?) (n + 1) (c :: before)
      rw [ahead_eq hr hspot] at hrest
      have hstep : r.follow ((r.here? stage n).or found?) n [⟨spot, []⟩] before (c :: rest)
          = ((r.longest (some spot) rest).map fun k => ⟨n + 1 + k, []⟩).or
              ((r.here? stage n).or found?) := by
        rw [← hrest, follow, List.isEmpty_cons, if_neg Bool.false_ne_true]
        simp only [hadvance, alone, here?]
        cases r.stops (some spot) <;> rfl
      refine hstep.trans ?_
      rw [here?, Option.bind_some]
      cases r.longest (some spot) rest with
      | none => cases r.stops stage <;> rfl
      | some k =>
        simp only [Option.map_some, Option.some_or]
        have hlength : n + 1 + k = n + (k + 1) := by omega
        rw [hlength]

/-- The match of a single thread is the longest one. -/
theorem matchAt?_eq_longest (hr : r.isSingle = true) (p : Place) :
    r.matchAt? p = (r.longest none p.after).map fun n => ⟨n, []⟩ := by
  have hnone : none ∈ r.stages := List.mem_cons_self
  have hfollow := follow_of_isSingle hr hnone none 0 p.before p.after
  rw [Option.or_none, Option.or_none, ahead_eq hr hnone] at hfollow
  simp only [Nat.zero_add] at hfollow
  rw [← hfollow, matchAt?, cut_start (isAnchorless_of_isSingle hr), ahead_eq hr hnone]
  simp only [alone, here?]
  cases r.stops none <;> rfl

/-! ## The longest beginning -/

theorem walk_append (stage : Stage) (text more : List Char) :
    r.walk stage (text ++ more) = (r.walk stage text).bind fun stop => r.walk stop more := by
  induction text generalizing stage with
  | nil => rfl
  | cons c rest ih =>
    rw [List.cons_append, walk, walk, Option.bind_assoc]
    exact congrArg _ (funext fun spot => ih (some spot))

theorem exists_walk_of_longest {stage : Stage} {text : List Char} {n : Nat}
    (h : r.longest stage text = some n) :
    n ≤ text.length ∧ ∃ stop, r.walk stage (text.take n) = some stop ∧ r.stops stop = true := by
  induction text generalizing stage n with
  | nil =>
    rw [longest] at h
    split at h
    · next hstops =>
      obtain rfl := Option.some.inj h
      exact ⟨Nat.le_refl 0, stage, rfl, hstops⟩
    · nomatch h
  | cons c rest ih =>
    rw [longest, Option.or_eq_some_iff] at h
    obtain h | ⟨-, h⟩ := h
    · obtain ⟨k, hk, rfl⟩ := Option.map_eq_some_iff.1 h
      obtain ⟨spot, hspot, hk⟩ := Option.bind_eq_some_iff.1 hk
      obtain ⟨hle, stop, hwalk, hstops⟩ := ih hk
      refine ⟨Nat.succ_le_succ hle, stop, ?_, hstops⟩
      rw [List.take_succ_cons, walk, hspot, Option.bind_some, hwalk]
    · split at h
      · next hstops =>
        obtain rfl := Option.some.inj h
        exact ⟨Nat.zero_le _, stage, rfl, hstops⟩
      · nomatch h

/-- No beginning behind which the walk can stop is longer. -/
theorem exists_longest_of_walk {stage stop : Stage} {text : List Char} (more : List Char)
    (hwalk : r.walk stage text = some stop) (hstops : r.stops stop = true) :
    ∃ n, r.longest stage (text ++ more) = some n ∧ text.length ≤ n := by
  induction text generalizing stage with
  | nil =>
    obtain rfl := Option.some.inj hwalk
    cases more with
    | nil => exact ⟨0, by rw [List.append_nil, longest, if_pos hstops], Nat.le_refl 0⟩
    | cons c rest =>
      rw [List.nil_append, longest, if_pos hstops]
      cases ((r.next? stage c).bind fun spot => r.longest (some spot) rest).map (· + 1) with
      | none => exact ⟨0, rfl, Nat.zero_le _⟩
      | some n => exact ⟨n, rfl, Nat.zero_le _⟩
  | cons c rest ih =>
    obtain ⟨spot, hspot, hwalk⟩ := Option.bind_eq_some_iff.1 hwalk
    obtain ⟨n, hn, hle⟩ := ih hwalk
    refine ⟨n + 1, ?_, Nat.succ_le_succ hle⟩
    rw [List.cons_append, longest, hspot, Option.bind_some, hn]
    rfl

/-- The walk is over where the next character leads nowhere. -/
theorem longest_of_walk {stage stop : Stage} {text more : List Char}
    (hwalk : r.walk stage text = some stop) (hstops : r.stops stop = true)
    (hmore : more.head?.bind (r.next? stop) = none) :
    r.longest stage (text ++ more) = some text.length := by
  induction text generalizing stage with
  | nil =>
    obtain rfl := Option.some.inj hwalk
    cases more with
    | nil => rw [List.append_nil, longest, if_pos hstops, List.length_nil]
    | cons c rest =>
      have hnext : r.next? stage c = none := hmore
      rw [List.nil_append, longest, hnext, if_pos hstops]
      rfl
  | cons c rest ih =>
    obtain ⟨spot, hspot, hwalk⟩ := Option.bind_eq_some_iff.1 hwalk
    rw [List.cons_append, longest, hspot, Option.bind_some, ih hwalk]
    rfl

/-- The match of a single thread is the longest beginning of the text that the expression
accepts. -/
theorem matchAt?_eq_some_iff (hr : r.isSingle = true) {p : Place} {n : Nat} :
    r.matchAt? p = some ⟨n, []⟩ ↔
      n ≤ p.after.length ∧ r.accepts (p.after.take n) = true ∧
        ∀ m, n < m → m ≤ p.after.length → r.accepts (p.after.take m) = false := by
  have haccepts {m n : Nat} (hn : r.longest none p.after = some n)
      (hm : r.accepts (p.after.take m) = true) (hle : m ≤ p.after.length) : m ≤ n := by
    obtain ⟨stop, hwalk, hstops⟩ := (Option.any_eq_true _ _).1 hm
    obtain ⟨k, hk, hmk⟩ := exists_longest_of_walk (p.after.drop m) hwalk hstops
    rw [List.take_append_drop, hn] at hk
    rw [List.length_take_of_le hle] at hmk
    exact Option.some.inj hk ▸ hmk
  rw [matchAt?_eq_longest hr]
  constructor
  · intro h
    obtain ⟨k, hk, heq⟩ := Option.map_eq_some_iff.1 h
    obtain rfl : k = n := congrArg Match.length heq
    obtain ⟨hle, stop, hwalk, hstops⟩ := exists_walk_of_longest hk
    refine ⟨hle, (Option.any_eq_true _ _).2 ⟨stop, hwalk, hstops⟩, fun m hlt hm => ?_⟩
    exact Bool.eq_false_iff.2 fun htrue => Nat.not_le_of_lt hlt (haccepts hk htrue hm)
  · rintro ⟨hle, htake, hmax⟩
    obtain ⟨stop, hwalk, hstops⟩ := (Option.any_eq_true _ _).1 htake
    obtain ⟨k, hk, hnk⟩ := exists_longest_of_walk (p.after.drop n) hwalk hstops
    rw [List.take_append_drop] at hk
    obtain ⟨hkle, last, hlast, hlasts⟩ := exists_walk_of_longest hk
    have hkn : k ≤ n := by
      refine Nat.le_of_not_lt fun hlt => ?_
      have hfalse := hmax k hlt hkle
      rw [accepts, hlast, Option.any_some, hlasts] at hfalse
      nomatch hfalse
    rw [List.length_take_of_le hle] at hnk
    rw [hk, Nat.le_antisymm hkn hnk, Option.map_some]

end Descent.Regex
