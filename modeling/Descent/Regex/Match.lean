import Descent.Regex.Reach

/-!
# Matching

All ways to match a text from a place on are followed together, character by character, in order of
preference. A thread gets nowhere where a preferred one has been. A thread that leaves the
expression has found a match, which is better than whatever the threads behind it may find, so these
are dropped; the threads before it go on, since what they find is better still.
-/

namespace Descent.Regex

/-- A match from some place on: how many characters it takes, and the named groups it has been
through. -/
structure Match where
  length : Nat
  groups : List (List Char)
deriving DecidableEq, Repr

/-- The threads that may still find something better than the way out, and the groups of a match if
there is a way out. -/
def Reach.cut (r : Reach) : List Thread × Option (List (List Char)) :=
  match r.exit? with
  | some exit => (r.before, some exit.groups)
  | none => (r.threads, none)

/-- Takes threads over the character before a place, up to the first that leaves the expression;
`trail` is what has been passed at the place so far. -/
def advance (r : Regex) (p : Place) (trail : Trail) :
    List Thread → List Thread × Option (List (List Char))
  | [] => ([], none)
  | t :: rest =>
    let reach := r.resume p t.spot ⟨t.groups, trail⟩
    match reach.cut with
    | (threads, some groups) => (threads, some groups)
    | (threads, none) =>
      let (others, found?) := advance r p (trail.union reach.passed) rest
      (threads ++ others, found?)

/-- Follows threads through the text after a place; `found?` is the best match so far and `length`
the number of characters taken. -/
def follow (r : Regex) (found? : Option Match) (length : Nat) (threads : List Thread)
    (before : List Char) : List Char → Option Match
  | [] => found?
  | c :: rest =>
    if threads.isEmpty then found?
    else
      let before := c :: before
      let (threads, groups?) := r.advance ⟨before, rest⟩ .fresh threads
      let here? := groups?.map fun groups => ⟨length + 1, groups⟩
      follow r (here? <|> found?) (length + 1) threads before rest

/-- The preferred match that starts at a place. -/
def matchAt? (r : Regex) (p : Place) : Option Match :=
  let (threads, groups?) := (r.start p ⟨[], .fresh⟩).cut
  r.follow (groups?.map fun groups => ⟨0, groups⟩) 0 threads p.before p.after

/-- Threads take no more characters than there are. -/
theorem length_le_of_follow (r : Regex) {found? : Option Match} {length : Nat}
    {threads : List Thread} {before after : List Char} {m : Match}
    (hfound : ∀ n, found? = some n → n.length ≤ length)
    (h : r.follow found? length threads before after = some m) :
    m.length ≤ length + after.length := by
  induction after generalizing found? length threads before with
  | nil => exact hfound m h
  | cons c rest ih =>
    unfold follow at h
    split at h
    · have := hfound m h
      omega
    · have hnext := ih (fun n hn => ?_) h
      · simp only [List.length_cons]
        omega
      · -- the better of two matches is either of them
        rw [Option.orElse_eq_orElse, Option.orElse_eq_or, Option.or_eq_some_iff] at hn
        rcases hn with hhere | ⟨-, hn⟩
        · obtain ⟨_, -, rfl⟩ := Option.map_eq_some_iff.1 hhere
          exact Nat.le_refl _
        · exact Nat.le_succ_of_le (hfound n hn)

/-- A match ends inside the text. -/
theorem length_le_of_matchAt? {r : Regex} {p : Place} {m : Match} (h : r.matchAt? p = some m) :
    m.length ≤ p.after.length := by
  unfold matchAt? at h
  have hle := r.length_le_of_follow (fun n hn => ?_) h
  · omega
  · obtain ⟨_, -, rfl⟩ := Option.map_eq_some_iff.1 hn
    exact Nat.le_refl _

/-! ## Searching -/

/-- The first place at or behind the one between `before` and the rest at which there is a match:
how many characters come before it, `skipped` of which have been passed already, and the match. -/
def findFrom (r : Regex) (skipped : Nat) (before : List Char) : List Char → Option (Nat × Match)
  | [] => (r.matchAt? ⟨before, []⟩).map fun m => (skipped, m)
  | c :: rest =>
    match r.matchAt? ⟨before, c :: rest⟩ with
    | some m => some (skipped, m)
    | none => findFrom r (skipped + 1) (c :: before) rest

/-- The leftmost match from a place on, and how many characters come before it. -/
def find? (r : Regex) (p : Place) : Option (Nat × Match) := r.findFrom 0 p.before p.after

/-- A search that goes on finds nothing where it has been. -/
theorem le_of_findFrom (r : Regex) {skipped : Nat} {before after : List Char} {n : Nat} {m : Match}
    (h : r.findFrom skipped before after = some (n, m)) : skipped ≤ n := by
  induction after generalizing skipped before with
  | nil =>
    simp only [findFrom, Option.map_eq_some_iff, Prod.mk.injEq] at h
    obtain ⟨_, _, rfl, _⟩ := h
    exact Nat.le_refl _
  | cons c rest ih =>
    simp only [findFrom] at h
    split at h
    · simp only [Option.some.injEq, Prod.mk.injEq] at h
      omega
    · have := ih h
      omega

/-- A search finds the match at the place itself, if there is one. -/
theorem find?_eq_zero_iff {r : Regex} {p : Place} {m : Match} :
    r.find? p = some (0, m) ↔ r.matchAt? p = some m := by
  obtain ⟨before, after⟩ := p
  cases after with
  | nil => simp [find?, findFrom]
  | cons c rest =>
    simp only [find?, findFrom]
    cases hm : r.matchAt? ⟨before, c :: rest⟩ with
    | some n => simp
    | none =>
      simp only [reduceCtorEq, iff_false]
      intro h
      have := le_of_findFrom r h
      omega

/-- A search that only counts at the place itself is a match there. -/
theorem bind_find? {α : Type} (r : Regex) (p : Place)
    {f : Nat × Match → Option α} (hf : ∀ n m, n ≠ 0 → f (n, m) = none) :
    (r.find? p).bind f = (r.matchAt? p).bind fun m => f (0, m) := by
  cases hm : r.matchAt? p with
  | some m =>
    rw [find?_eq_zero_iff.2 hm]
    rfl
  | none =>
    cases hfind : r.find? p with
    | none => rfl
    | some found =>
      obtain ⟨n, m⟩ := found
      refine hf n m ?_
      intro hn
      rw [hn, find?_eq_zero_iff, hm] at hfind
      nomatch hfind

end Descent.Regex
