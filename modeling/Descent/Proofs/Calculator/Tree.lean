import Descent.Language.Calculator

/-!
# The tree of an expression

An expression is read in order: number, symbol, number, symbol, number. Of the trees with a given
reading there is one that leans to the left among operations of equal rank and puts those of higher
rank below (`Expr.LeansLeft`). It is the tree that comes about when numbers are joined from the
right one by one, `Expr.ofLinks`; `Expr.eq_ofLinks` says that no other tree with the same reading
leans to the left.
-/

namespace Descent.Calculator

/-- The symbol of an operation and the number behind it. -/
abbrev Link := String × String

/-- What a chain of links reads like. -/
def readingOf (links : List Link) : List String := links.flatMap fun link => [link.1, link.2]

namespace Expr

/-! ## Readings and shapes -/

/-- The numbers and symbols of an expression from left to right. -/
def reading : Expr → List String
  | number text => [text]
  | node op left right => left.reading ++ op :: right.reading

/-- Whether an expression is a number or an operation that binds at least so tightly. -/
def BindsBy (least : Nat) : Expr → Prop
  | number _ => True
  | node op _ _ => least ≤ rank op

/-- Whether everywhere in an expression the left operand binds at least as tightly as the operation
and the right operand binds strictly tighter. -/
def LeansLeft : Expr → Prop
  | number _ => True
  | node op left right =>
    left.LeansLeft ∧ left.BindsBy (rank op) ∧ right.LeansLeft ∧ right.BindsBy (rank op + 1)

/-! ## Joining a number on the left -/

theorem reading_rebalance (left : Expr) (op : String) (e : Expr) :
    (rebalance left op e).reading = left.reading ++ op :: e.reading := by
  induction e with
  | number text => rfl
  | node inner l r ihl _ =>
    unfold rebalance
    split
    · rw [reading, ihl, reading, List.append_assoc, List.cons_append]
    · rfl

/-- What has gone through a rebalancing binds as its loosest operation does. -/
theorem bindsBy_rebalance_iff {left : Expr} {op : String} {e : Expr} {least : Nat} :
    (rebalance left op e).BindsBy least ↔ least ≤ rank op ∧ e.BindsBy least := by
  cases e with
  | number text => simp [rebalance, BindsBy]
  | node inner l r =>
    unfold rebalance
    split
    · simp only [BindsBy]
      omega
    · simp only [BindsBy]
      omega

/-- A number joined on the left keeps an expression leaning to the left. -/
theorem leansLeft_rebalance {text op : String} {e : Expr} (h : e.LeansLeft) :
    (rebalance (number text) op e).LeansLeft := by
  induction e with
  | number next => exact ⟨trivial, trivial, trivial, trivial⟩
  | node inner l r ihl _ =>
    obtain ⟨hl, hlbinds, hr, hrbinds⟩ := h
    unfold rebalance
    split
    · -- the number goes down the left edge, where all binds as tightly as the inner operation
      next hle => exact ⟨ihl hl, bindsBy_rebalance_iff.2 ⟨hle, hlbinds⟩, hr, hrbinds⟩
    · -- the whole expression becomes the right operand, and it binds tighter
      next hlt => exact ⟨trivial, trivial, ⟨hl, hlbinds, hr, hrbinds⟩, Nat.lt_of_not_le hlt⟩

/-! ## Chains of links -/

/-- The expression that comes about when numbers are joined from the right one by one. -/
def ofLinks (first : String) : List Link → Expr
  | [] => number first
  | (op, next) :: rest => rebalance (number first) op (ofLinks next rest)

theorem reading_ofLinks (first : String) (links : List Link) :
    (ofLinks first links).reading = first :: readingOf links := by
  induction links generalizing first with
  | nil => rfl
  | cons link rest ih => rw [ofLinks, reading_rebalance, ih]; rfl

theorem leansLeft_ofLinks (first : String) (links : List Link) :
    (ofLinks first links).LeansLeft := by
  induction links generalizing first with
  | nil => trivial
  | cons link rest ih => exact leansLeft_rebalance (ih link.2)

/-- An operation that binds no tighter than what is left of it, and looser than what is right of it,
comes out on top. -/
theorem ofLinks_append {first op next : String} {links rest : List Link}
    (hleft : (ofLinks first links).BindsBy (rank op))
    (hright : (ofLinks next rest).BindsBy (rank op + 1)) :
    ofLinks first (links ++ (op, next) :: rest)
      = node op (ofLinks first links) (ofLinks next rest) := by
  induction links generalizing first with
  | nil =>
    rw [List.nil_append, ofLinks, ofLinks]
    cases he : ofLinks next rest with
    | number text => rfl
    | node inner l r =>
      rw [he, BindsBy] at hright
      rw [rebalance, if_neg (by omega)]
  | cons link links ih =>
    obtain ⟨op', next'⟩ := link
    -- the operations on the left bind no looser, so they go down the left edge
    obtain ⟨hrank, hinner⟩ := bindsBy_rebalance_iff.1 hleft
    rw [List.cons_append, ofLinks, ih hinner, rebalance, if_pos hrank]
    rfl

/-- An expression that leans to the left is the one its own reading leads to. -/
theorem exists_eq_ofLinks {e : Expr} (h : e.LeansLeft) :
    ∃ first links, e = ofLinks first links := by
  induction e with
  | number text => exact ⟨text, [], rfl⟩
  | node op l r ihl ihr =>
    obtain ⟨hl, hlbinds, hr, hrbinds⟩ := h
    obtain ⟨first, links, rfl⟩ := ihl hl
    obtain ⟨next, rest, rfl⟩ := ihr hr
    exact ⟨first, links ++ (op, next) :: rest, (ofLinks_append hlbinds hrbinds).symm⟩

theorem readingOf_injective {links links' : List Link} (h : readingOf links = readingOf links') :
    links = links' := by
  induction links generalizing links' with
  | nil =>
    cases links' with
    | nil => rfl
    | cons link rest => simp [readingOf] at h
  | cons link rest ih =>
    cases links' with
    | nil => simp [readingOf] at h
    | cons link' rest' =>
      simp only [readingOf, List.flatMap_cons, List.cons_append, List.nil_append,
        List.cons.injEq] at h
      obtain ⟨hop, hnext, hrest⟩ := h
      rw [Prod.ext hop hnext, ih hrest]

/-- No other tree with the same reading leans to the left. -/
theorem eq_ofLinks {e : Expr} {first : String} {links : List Link} (h : e.LeansLeft)
    (hreading : e.reading = first :: readingOf links) : e = ofLinks first links := by
  obtain ⟨first', links', rfl⟩ := exists_eq_ofLinks h
  rw [reading_ofLinks] at hreading
  obtain ⟨rfl, hlinks⟩ := List.cons.inj hreading
  rw [readingOf_injective hlinks]

end Expr

end Descent.Calculator
