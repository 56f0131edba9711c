import Descent.Regex.Basic

/-!
# What an expression reaches without taking a character

Between two characters a match passes through choices, and none of them twice: a round of nothing
that comes back to a choice goes no further. Nor does a match get anywhere by a choice that a
preferred match has passed at the same place, since what follows has been found already. A *trail*
remembers what has been passed.

Standing at a place, a match may wait at several *spots* for the next character and may also leave
the expression; the *reach* of the expression is all of this in order of preference. Of two ways out
at the same place only the preferred one counts, because what follows cannot tell them apart.
-/

namespace Descent.Regex

/-- One of the two parts of an expression. -/
inductive Side where
  | first
  | second
deriving DecidableEq, Repr

/-- The way down an expression to a single character. An only part counts as the first. -/
abbrev Spot := List Side

/-- What has been passed of an expression at some place. -/
inductive Trail where
  /-- Nothing. -/
  | fresh
  /-- Whether the choice of the expression itself has been passed, and what of its parts. A single
  character counts as passed when a match waits for it. -/
  | node (passed : Bool) (first second : Trail)
deriving DecidableEq, Repr

namespace Trail

/-- Whether the expression itself has been passed. -/
def passed : Trail → Bool
  | fresh => false
  | node passed _ _ => passed

/-- The trail of a part. -/
def part (side : Side) : Trail → Trail
  | fresh => fresh
  | node _ first second =>
    match side with
    | .first => first
    | .second => second

/-- The trail with another one for a part. -/
def setPart (side : Side) (trail part : Trail) : Trail :=
  match side with
  | .first => node trail.passed part (trail.part .second)
  | .second => node trail.passed (trail.part .first) part

/-- The trail with the expression itself passed. -/
def mark (trail : Trail) : Trail := node true (trail.part .first) (trail.part .second)

/-- What either of two trails has passed. -/
def union : Trail → Trail → Trail
  | fresh, t | t, fresh => t
  | node p a b, node q c d => node (p || q) (a.union c) (b.union d)

end Trail

/-- A match under way: where it waits for the next character, and the named groups it has been
through. -/
structure Thread where
  spot : Spot
  groups : List (List Char)
deriving DecidableEq, Repr

/-- A way into or out of an expression: the named groups so far, and what must not be passed
again. -/
structure Pass where
  groups : List (List Char)
  trail : Trail
deriving DecidableEq, Repr

/-- What can be reached from some point on, in order of preference: threads, perhaps a way out, and
the threads that come after it. -/
structure Reach where
  before : List Thread
  exit? : Option Pass
  behind : List Thread
  /-- All that has been passed to find this out. -/
  passed : Trail
deriving DecidableEq, Repr

namespace Reach

/-- Nothing can be reached. -/
def nowhere : Reach := ⟨[], none, [], .fresh⟩

/-- A way out at once. -/
def leave (exit : Pass) : Reach := ⟨[], some exit, [], .fresh⟩

/-- One thread, which waits for the single character that the expression is. -/
def wait (groups : List (List Char)) : Reach := ⟨[⟨[], groups⟩], none, [], Trail.fresh.mark⟩

/-- All threads. -/
def threads (r : Reach) : List Thread := r.before ++ r.behind

/-- The threads without the way out. -/
def closed (r : Reach) : Reach := ⟨r.threads, none, [], r.passed⟩

/-- Either of two, the first preferred. -/
def orElse (a b : Reach) : Reach :=
  let passed := a.passed.union b.passed
  match a.exit? with
  | some exit => ⟨a.before, some exit, a.behind ++ b.threads, passed⟩
  | none => ⟨a.threads ++ b.before, b.exit?, b.behind, passed⟩

/-- Either of two, the first preferred if the choice is greedy, else the second. The choice itself
has been passed. -/
def choice (greedy : Bool) (a b : Reach) : Reach :=
  let r := if greedy then a.orElse b else b.orElse a
  { r with passed := r.passed.mark }

/-- What is reached when the way out leads on. -/
def andThen (a : Reach) (next : Pass → Reach) : Reach :=
  match a.exit? with
  | some exit =>
    let b := next exit
    ⟨a.before ++ b.before, b.exit?, b.behind ++ a.behind, a.passed.union b.passed⟩
  | none => a

/-- What is reached in a part, seen from the expression around it and its trail. -/
def within (side : Side) (trail : Trail) (r : Reach) : Reach :=
  let deeper := fun (t : Thread) => { t with spot := side :: t.spot }
  ⟨r.before.map deeper, r.exit?.map fun e => { e with trail := trail.setPart side e.trail },
    r.behind.map deeper, Trail.fresh.setPart side r.passed⟩

/-- Adds a name to the groups of the way out. -/
def named (name : Option (List Char)) (r : Reach) : Reach :=
  { r with exit? := r.exit?.map fun e =>
      { e with groups := name.toList.filter (!e.groups.contains ·) ++ e.groups } }

/-- The choice of a repetition between one more round and the end, unless it has been passed. A
round that leads back here without a character is no other way to the end. -/
def turn (greedy : Bool) (again : Pass → Reach) (here : Pass) : Reach :=
  if here.trail.passed then .nowhere
  else
    let here := { here with trail := here.trail.mark }
    choice greedy (again here).closed (leave here)

end Reach

/-! ## Entering an expression -/

/-- Enters a part of an expression, given how the part is entered. -/
def enterPart (side : Side) (start : Pass → Reach) (here : Pass) : Reach :=
  (start { here with trail := here.trail.part side }).within side here.trail

/-- What is reached on entering an expression at a place. Only spots that take the next character
are listed. -/
def start (p : Place) : Regex → Pass → Reach
  | empty, here => .leave here
  | one chars, here =>
    if !here.trail.passed && p.right?.any chars.holds then .wait here.groups else .nowhere
  | anchor a, here => if a.holds p then .leave here else .nowhere
  | seq first second, here =>
    (enterPart .first (start p first) here).andThen (enterPart .second (start p second))
  | alt first second, here =>
    if here.trail.passed then .nowhere
    else
      let here := { here with trail := here.trail.mark }
      .choice true (enterPart .first (start p first) here)
        (enterPart .second (start p second) here)
  | group name body, here => (enterPart .first (start p body) here).named name
  | optional body greedy, here =>
    if here.trail.passed then .nowhere
    else
      let here := { here with trail := here.trail.mark }
      .choice greedy (enterPart .first (start p body) here) (.leave here)
  | star body greedy, here => .turn greedy (enterPart .first (start p body)) here
  | plus body greedy, here =>
    (enterPart .first (start p body) here).andThen
      (.turn greedy (enterPart .first (start p body)))

theorem start_one (p : Place) (chars : CharClass) (here : Pass) :
    start p (one chars) here =
      if !here.trail.passed && p.right?.any chars.holds then .wait here.groups else .nowhere := rfl

theorem start_anchor (p : Place) (a : Anchor) (here : Pass) :
    start p (anchor a) here = if a.holds p then .leave here else .nowhere := rfl

theorem start_alt (p : Place) (first second : Regex) (here : Pass) :
    start p (alt first second) here =
      if here.trail.passed then .nowhere
      else
        let here := { here with trail := here.trail.mark }
        .choice true (enterPart .first (start p first) here)
          (enterPart .second (start p second) here) := rfl

theorem start_optional (p : Place) (body : Regex) (greedy : Bool) (here : Pass) :
    start p (optional body greedy) here =
      if here.trail.passed then .nowhere
      else
        let here := { here with trail := here.trail.mark }
        .choice greedy (enterPart .first (start p body) here) (.leave here) := rfl

/-! ## Going on behind a character -/

/-- What is reached after the character at a spot has been taken. The place is the one behind the
character, and the trail is what preferred matches have passed there. -/
def resume (p : Place) : Regex → Spot → Pass → Reach
  | one _, [], here => .leave here
  | seq first second, .first :: spot, here =>
    (enterPart .first (resume p first spot) here).andThen (enterPart .second (start p second))
  | seq _ second, .second :: spot, here => enterPart .second (resume p second spot) here
  | alt first _, .first :: spot, here => enterPart .first (resume p first spot) here
  | alt _ second, .second :: spot, here => enterPart .second (resume p second spot) here
  | group name body, .first :: spot, here =>
    (enterPart .first (resume p body spot) here).named name
  | optional body _, .first :: spot, here => enterPart .first (resume p body spot) here
  | star body greedy, .first :: spot, here | plus body greedy, .first :: spot, here =>
    (enterPart .first (resume p body spot) here).andThen
      (.turn greedy (enterPart .first (start p body)))
  | _, _, _ => .nowhere

end Descent.Regex
