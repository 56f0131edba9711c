import Mathlib.Data.List.Basic
import Descent.Regex.Match

/-!
# What an expression sees of a place

An expression sees a place through its anchors, which hold there or not, and through its classes,
which contain the next character or not. Places that look alike to it (`Regex.SeesSame`) are the
same to its matches.

Of the anchors most look at what stands before the place. An expression without such anchors
(`Regex.looksBehind`) matches at a place as it does in front of the text behind the place, whatever
comes before (`Regex.ignoresBefore_of_looksBehind`).
-/

namespace Descent

namespace Regex

/-- Whether an expression has no anchors. -/
def isAnchorless : Regex → Bool
  | empty | one _ => true
  | anchor _ => false
  | seq first second | alt first second => first.isAnchorless && second.isAnchorless
  | group _ body | optional body _ | star body _ | plus body _ => body.isAnchorless

/-- The anchors of an expression. -/
def anchors : Regex → List Anchor
  | empty | one _ => []
  | anchor a => [a]
  | seq first second | alt first second => first.anchors ++ second.anchors
  | group _ body | optional body _ | star body _ | plus body _ => body.anchors

/-- The classes of an expression. -/
def classes : Regex → List CharClass
  | empty | anchor _ => []
  | one chars => [chars]
  | seq first second | alt first second => first.classes ++ second.classes
  | group _ body | optional body _ | star body _ | plus body _ => body.classes

variable {r first second : Regex} {p q : Place}

theorem anchors_of_isAnchorless (h : r.isAnchorless = true) : r.anchors = [] := by
  induction r with
  | empty | one _ => rfl
  | anchor a => nomatch h
  | seq first second ihf ihs | alt first second ihf ihs =>
    rw [isAnchorless, Bool.and_eq_true] at h
    rw [anchors, ihf h.1, ihs h.2, List.append_nil]
  | group name body ih | optional body greedy ih | star body greedy ih | plus body greedy ih =>
    exact ih h

/-! ## Places that look alike -/

/-- Whether an expression cannot tell two places apart. -/
def SeesSame (r : Regex) (p q : Place) : Prop :=
  (∀ a ∈ r.anchors, a.holds p = a.holds q) ∧
    ∀ chars ∈ r.classes, p.right?.any chars.holds = q.right?.any chars.holds

/-- Without anchors only the next character matters, and of that only which classes it is in. -/
theorem seesSame_of_isAnchorless (hr : r.isAnchorless = true)
    (h : ∀ chars ∈ r.classes, p.right?.any chars.holds = q.right?.any chars.holds) :
    r.SeesSame p q := by
  refine ⟨fun a ha => ?_, h⟩
  rw [anchors_of_isAnchorless hr] at ha
  nomatch ha

/-- What an expression cannot tell apart, its two parts cannot either. -/
theorem SeesSame.parts (h : (seq first second).SeesSame p q) :
    first.SeesSame p q ∧ second.SeesSame p q := by
  obtain ⟨hanchors, hclasses⟩ := h
  obtain ⟨hanchorsFirst, hanchorsSecond⟩ := List.forall_mem_append.1 hanchors
  obtain ⟨hclassesFirst, hclassesSecond⟩ := List.forall_mem_append.1 hclasses
  exact ⟨⟨hanchorsFirst, hclassesFirst⟩, ⟨hanchorsSecond, hclassesSecond⟩⟩

theorem start_congr (h : r.SeesSame p q) : start p r = start q r := by
  induction r with
  | empty => rfl
  | one chars =>
    funext here
    rw [start_one, start_one, h.2 chars (List.mem_singleton_self _)]
  | anchor a =>
    funext here
    rw [start_anchor, start_anchor, h.1 a (List.mem_singleton_self _)]
  | seq first second ihf ihs | alt first second ihf ihs =>
    -- an alternative has the anchors and classes that a sequence of its parts has
    have hparts : (seq first second).SeesSame p q := h
    obtain ⟨hfirst, hsecond⟩ := hparts.parts
    funext here
    rw [start, start, ihf hfirst, ihs hsecond]
  | group name body ih | optional body greedy ih | star body greedy ih | plus body greedy ih =>
    have hbody : body.SeesSame p q := h
    funext here
    rw [start, start, ih hbody]

theorem resume_congr (h : r.SeesSame p q) (spot : Spot) : resume p r spot = resume q r spot := by
  induction r generalizing spot with
  | empty | anchor _ => rfl
  | one chars => cases spot <;> rfl
  | seq first second ihf ihs =>
    obtain ⟨hfirst, hsecond⟩ := h.parts
    rcases spot with _ | ⟨_ | _, spot⟩
    · rfl
    · funext here
      rw [resume, resume, ihf hfirst, start_congr hsecond]
    · funext here
      rw [resume, resume, ihs hsecond]
  | alt first second ihf ihs =>
    have hparts : (seq first second).SeesSame p q := h
    obtain ⟨hfirst, hsecond⟩ := hparts.parts
    rcases spot with _ | ⟨_ | _, spot⟩
    · rfl
    · funext here
      rw [resume, resume, ihf hfirst]
    · funext here
      rw [resume, resume, ihs hsecond]
  | group name body ih | optional body greedy ih =>
    have hbody : body.SeesSame p q := h
    rcases spot with _ | ⟨_ | _, spot⟩
    · rfl
    · funext here
      rw [resume, resume, ih hbody]
    · rfl
  | star body greedy ih | plus body greedy ih =>
    have hbody : body.SeesSame p q := h
    rcases spot with _ | ⟨_ | _, spot⟩
    · rfl
    · funext here
      rw [resume, resume, ih hbody, start_congr hbody]
    · rfl

end Regex

/-! ## Looking behind -/

/-- Whether an anchor looks at what stands before a place. In lines that end in two characters the
end of a line does, since it must not come between the two. -/
def Anchor.looksBehind : Anchor → Bool
  | textEnd | lineEnd false | wordEndHalf _ => false
  | textStart | lineStart _ | lineEnd true | wordBoundary _ | notWordBoundary _ | wordStart _
  | wordEnd _ | wordStartHalf _ => true

/-- An anchor that does not look behind sees only the text behind the place. -/
theorem Anchor.holds_congr {a : Anchor} (ha : a.looksBehind = false) {p q : Place}
    (h : p.after = q.after) : a.holds p = a.holds q := by
  unfold looksBehind at ha
  split at ha
  · rw [holds, holds, h]
  · rw [holds, holds, Place.right?, Place.right?, h]
  · rw [holds, holds, Place.right?, Place.right?, h]
  all_goals nomatch ha

namespace Regex

/-- Whether an expression has an anchor that looks at what stands before a place. -/
def looksBehind (r : Regex) : Bool := r.anchors.any (·.looksBehind)

/-- Whether an expression matches at every place as it does in front of the text behind it. -/
def IgnoresBefore (r : Regex) : Prop := ∀ p, r.matchAt? p = r.matchAt? (.front p.after)

variable {r : Regex} {p q : Place}

section

variable (hr : r.looksBehind = false)

include hr

theorem seesSame_of_looksBehind (h : p.after = q.after) : r.SeesSame p q := by
  refine ⟨fun a ha => ?_, fun chars _ => ?_⟩
  · have hbehind := List.any_eq_false.1 hr a ha
    exact Anchor.holds_congr (Bool.not_eq_true _ ▸ hbehind) h
  · rw [Place.right?, Place.right?, h]

theorem advance_eq_of_after (h : p.after = q.after) (trail : Trail) (threads : List Thread) :
    r.advance p trail threads = r.advance q trail threads := by
  induction threads generalizing trail with
  | nil => rfl
  | cons t rest ih =>
    rw [advance, advance, resume_congr (seesSame_of_looksBehind hr h)]
    simp only [ih]

theorem follow_eq_of_before (found? : Option Match) (length : Nat) (threads : List Thread)
    (before before' after : List Char) :
    r.follow found? length threads before after = r.follow found? length threads before' after := by
  induction after generalizing found? length threads before before' with
  | nil => rfl
  | cons c rest ih =>
    have hsame : (Place.mk (c :: before) rest).after = (Place.mk (c :: before') rest).after := rfl
    simp only [follow, advance_eq_of_after hr hsame]
    split
    · rfl
    · exact ih _ _ _ _ _

theorem ignoresBefore_of_looksBehind : r.IgnoresBefore := by
  intro p
  have hstart : start p r = start (.front p.after) r :=
    start_congr (seesSame_of_looksBehind hr rfl)
  rw [matchAt?, matchAt?, hstart]
  exact follow_eq_of_before hr _ _ _ _ _ _

end

end Regex

end Descent
