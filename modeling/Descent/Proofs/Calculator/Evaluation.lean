import Descent.Language.Calculator
import Descent.Proofs.Fold.Walk
import Descent.Proofs.Json.Members

/-!
# Computing an expression by a fold

An expression has a value if its numbers can be read: they are read as floats, and the operations
are done from the leaves up (`Expr.value?`). The fold that computes it knows no expressions. It sees
objects and texts, it tells operands from symbols by the last step of their paths, and it leaves
alone what it cannot compute. Still, what it leaves of an operand depends on the operand alone
(`Expr.outcome`, `reduceFrom_toValue`): a float, the value, as long as all values inside are finite
(`Expr.Finite`), and no number as soon as one of them is not.
-/

namespace Descent.Calculator

/-! ## Values of expressions -/

namespace Expr

/-- The expression itself and all operands in it. -/
def parts : Expr → List Expr
  | number text => [number text]
  | node op left right => node op left right :: (left.parts ++ right.parts)

/-- The numbers of an expression from left to right. -/
def numbers : Expr → List String
  | number text => [text]
  | node _ left right => left.numbers ++ right.numbers

/-- The value of an expression, computed from the leaves up. -/
def value? : Expr → Option Float
  | number text => Decimal.float? text.toList
  | node op left right => do
    let apply ← operation? op
    let x ← left.value?
    let y ← right.value?
    some (apply x y)

/-- Whether an expression and every operand in it have a finite value. -/
def Finite (e : Expr) : Prop := ∀ part ∈ e.parts, part.value?.any Float.isFinite

theorem number_mem_parts_iff {e : Expr} {text : String} :
    number text ∈ e.parts ↔ text ∈ e.numbers := by
  induction e with
  | number text' => simp [parts, numbers]
  | node op left right ihl ihr => simp [parts, numbers, ihl, ihr]

/-- An expression is finite if its numbers are, and the values of all its operations. -/
theorem finite_iff {e : Expr} :
    e.Finite ↔ (∀ text ∈ e.numbers, (Decimal.float? text.toList).any Float.isFinite) ∧
      ∀ op left right, node op left right ∈ e.parts →
        (node op left right).value?.any Float.isFinite := by
  constructor
  · intro h
    exact ⟨fun text htext => h _ (number_mem_parts_iff.2 htext), fun op l r hmem => h _ hmem⟩
  · rintro ⟨hnumbers, hnodes⟩ (text | ⟨op, l, r⟩) hmem
    · exact hnumbers text (number_mem_parts_iff.1 hmem)
    · exact hnodes op l r hmem

theorem finite_number_iff {text : String} :
    (number text).Finite ↔ (Decimal.float? text.toList).any Float.isFinite := by
  simp [Finite, parts, value?]

theorem finite_node_iff {op : String} {left right : Expr} :
    (node op left right).Finite ↔
      (node op left right).value?.any Float.isFinite ∧ left.Finite ∧ right.Finite := by
  simp [Finite, parts, or_imp, forall_and]

end Expr

/-! ## What is left of an operand -/

/-- An operation as an object. Its members are in the order of their keys. -/
def operation (op : String) (left right : Value) : Value :=
  .obj [("left", left), ("op", .str op), ("right", right)]

theorem left_lt_op : "left" < "op" := by decide

theorem op_lt_right : "op" < "right" := by decide

theorem keysAscend_operation (left op right : Value) :
    Value.KeysAscend [("left", left), ("op", op), ("right", right)] := by
  have hright := String.lt_trans left_lt_op op_lt_right
  refine .cons (List.forall_mem_cons.2 ⟨left_lt_op, List.forall_mem_singleton.2 hright⟩) ?_
  exact .cons (List.forall_mem_singleton.2 op_lt_right) (List.pairwise_singleton _ _)

/-- The members of an operation are put in the order of their keys. -/
theorem toValue_node (op : String) (left right : Expr) :
    (Expr.node op left right).toValue = operation op left.toValue right.toValue := by
  have hright := String.lt_trans left_lt_op op_lt_right
  have hsorted : Value.insertMember "left" left.toValue [("op", .str op)]
      = [("left", left.toValue), ("op", .str op)] := if_pos left_lt_op
  have hinsert : (Expr.node op left right).toValue = .obj (Value.insertMember "right" right.toValue
      (Value.insertMember "left" left.toValue [("op", .str op)])) := rfl
  have hlast : ∀ m ∈ [("left", left.toValue), ("op", Value.str op)], m.1 < "right" :=
    List.forall_mem_cons.2 ⟨hright, List.forall_mem_singleton.2 op_lt_right⟩
  rw [hinsert, hsorted, Value.insertMember_of_lt hlast]
  rfl

/-- What a fold leaves of a number. -/
def readNumber (text : String) : Value :=
  match Decimal.float? text.toList with
  | some x => .ofFloat x
  | none => .str text

/-- What a fold leaves of an operation, given what it has left of the operands. -/
def compute (op : String) (left right : Value) : Value :=
  match operation? op, left.float?, right.float? with
  | some apply, some x, some y => .ofFloat (apply x y)
  | _, _, _ => operation op left right

theorem float?_ofFloat (x : Float) :
    (Value.ofFloat x).float? = if x.isFinite then some x else none := by
  rw [Value.ofFloat]
  split <;> rfl

theorem compute_float {op : String} {apply : Float → Float → Float}
    (hop : operation? op = some apply) (x y : Float) :
    compute op (.float x) (.float y) = .ofFloat (apply x y) := by
  simp only [compute, hop, Value.float?]

theorem float?_compute_of_none {op : String} {left right : Value}
    (h : operation? op = none ∨ left.float? = none ∨ right.float? = none) :
    (compute op left right).float? = none := by
  unfold compute
  split
  · next hop hx hy => simp [hop, hx, hy] at h
  · rfl

namespace Expr

/-- What a fold leaves of an operand. -/
def outcome : Expr → Value
  | number text => readNumber text
  | node op left right => compute op left.outcome right.outcome

variable {e : Expr}

/-- Of a finite expression its value is left. -/
theorem Finite.outcome_eq (h : e.Finite) : ∃ x, e.value? = some x ∧ e.outcome = .float x := by
  induction e with
  | number text =>
    obtain ⟨x, hx, hfinite⟩ := (Option.any_eq_true _ _).1 (finite_number_iff.1 h)
    refine ⟨x, hx, ?_⟩
    rw [outcome, readNumber, hx]
    exact if_pos hfinite
  | node op left right ihl ihr =>
    obtain ⟨hnode, hleft, hright⟩ := finite_node_iff.1 h
    obtain ⟨x, hx, hxleft⟩ := ihl hleft
    obtain ⟨y, hy, hyright⟩ := ihr hright
    obtain ⟨z, hz, hfinite⟩ := (Option.any_eq_true _ _).1 hnode
    refine ⟨z, hz, ?_⟩
    cases hop : operation? op with
    | none => simp [value?, hop] at hz
    | some apply =>
      obtain rfl : apply x y = z := by simpa [value?, hop, hx, hy] using hz
      rw [outcome, hxleft, hyright, compute_float hop]
      exact if_pos hfinite

/-- Of an expression that is not finite no number is left. -/
theorem float?_outcome_of_not_finite (h : ¬e.Finite) : e.outcome.float? = none := by
  induction e with
  | number text =>
    rw [finite_number_iff] at h
    rw [outcome, readNumber]
    cases hx : Decimal.float? text.toList with
    | none => rfl
    | some x =>
      rw [hx, Option.any_some] at h
      exact (float?_ofFloat x).trans (if_neg h)
  | node op left right ihl ihr =>
    by_cases hleft : left.Finite
    · by_cases hright : right.Finite
      · -- both operands have a value, and the operation itself comes to no finite one
        obtain ⟨x, hx, hxleft⟩ := hleft.outcome_eq
        obtain ⟨y, hy, hyright⟩ := hright.outcome_eq
        cases hop : operation? op with
        | none => exact float?_compute_of_none (Or.inl hop)
        | some apply =>
          have hnode : ¬(apply x y).isFinite := fun hfinite => h (finite_node_iff.2
            ⟨by simpa [value?, hop, hx, hy] using hfinite, hleft, hright⟩)
          rw [outcome, hxleft, hyright, compute_float hop, float?_ofFloat, if_neg hnode]
      · exact float?_compute_of_none (Or.inr (Or.inr (ihr hright)))
    · exact float?_compute_of_none (Or.inr (Or.inl (ihl hleft)))

/-- A number is left of an expression just if it is finite. -/
theorem typeName_outcome_eq_iff : e.outcome.typeName = "number" ↔ e.Finite := by
  constructor
  · intro h
    by_contra hnot
    have hnone := float?_outcome_of_not_finite hnot
    cases houtcome : e.outcome <;> simp [houtcome, Value.typeName, Value.float?] at h hnone
  · intro h
    obtain ⟨x, -, hx⟩ := h.outcome_eq
    rw [hx]
    rfl

end Expr

/-! ## The fold -/

section

variable {path : Path} {parent : Option Value}

theorem isOperand_left (path : Path) : isOperand (path ++ [.key "left"]) = true := by
  rw [isOperand, List.getLast?_concat]
  rfl

theorem isOperand_right (path : Path) : isOperand (path ++ [.key "right"]) = true := by
  rw [isOperand, List.getLast?_concat]
  rfl

theorem isOperand_op (path : Path) : isOperand (path ++ [.key "op"]) = false := by
  rw [isOperand, List.getLast?_concat]
  rfl

theorem reduceFrom_str (text : String) :
    (Value.str text).reduceFrom evaluate path parent
      = (evaluate [] ⟨.str text, path, parent⟩).apply (.str text) [] :=
  Value.reduceFrom_eq evaluate (.str text) path parent

/-- A text that is an operand is read as a number. -/
theorem reduceFrom_number (h : isOperand path = true) (text : String) :
    (Value.str text).reduceFrom evaluate path parent = some (readNumber text) := by
  have hevaluate : evaluate [] ⟨.str text, path, parent⟩ =
      match Decimal.float? text.toList with
      | some x => .replace (.ofFloat x)
      | none => .keep := if_pos h
  rw [reduceFrom_str, hevaluate, readNumber]
  cases Decimal.float? text.toList <;> rfl

/-- The symbol of an operation stays, whatever it reads like. -/
theorem reduceFrom_op (op : String) :
    (Value.str op).reduceFrom evaluate (path ++ [.key "op"]) parent = some (.str op) := by
  rw [reduceFrom_str, evaluate, isOperand_op]
  rfl

theorem rebuild_operation (op : String) (left right left' right' : Value) :
    (operation op left right).rebuild
        [(.key "left", left'), (.key "op", .str op), (.key "right", right')]
      = operation op left' right' :=
  congrArg Value.obj (Value.sortMembers_of_keysAscend (keysAscend_operation _ _ _))

/-- An operation that is an operand is computed from what is left of its own operands. -/
theorem reduceFrom_operation {op : String} {left right left' right' : Value}
    (h : isOperand path = true)
    (hleft : ∀ parent, left.reduceFrom evaluate (path ++ [.key "left"]) parent = some left')
    (hright : ∀ parent, right.reduceFrom evaluate (path ++ [.key "right"]) parent = some right') :
    (operation op left right).reduceFrom evaluate path parent
      = some (compute op left' right') := by
  let folded : Folded := [(.key "left", left'), (.key "op", .str op), (.key "right", right')]
  have hfolded : (operation op left right).reduceFrom evaluate path parent
      = (evaluate folded ⟨operation op left right, path, parent⟩).apply
          (operation op left right) folded := by
    rw [Value.reduceFrom_eq]
    simp only [operation, Value.children, List.map_cons, List.map_nil, List.filterMap_cons,
      List.filterMap_nil, hleft, hright, reduceFrom_op, Option.map_some, folded]
  have hevaluate : evaluate folded ⟨operation op left right, path, parent⟩ =
      match operation? op, left'.float?, right'.float? with
      | some apply, some x, some y => .replace (.ofFloat (apply x y))
      | _, _, _ => .keep := if_pos h
  rw [hfolded, hevaluate, compute]
  split
  · rfl
  · exact congrArg some (rebuild_operation op left right left' right')

end

/-- What a fold leaves of an operand depends on the operand alone. -/
theorem reduceFrom_toValue (e : Expr) {path : Path} (h : isOperand path = true)
    (parent : Option Value) : e.toValue.reduceFrom evaluate path parent = some e.outcome := by
  induction e generalizing path parent with
  | number text => exact reduceFrom_number h text
  | node op left right ihl ihr =>
    rw [toValue_node, Expr.outcome]
    exact reduceFrom_operation h (ihl (isOperand_left path)) (ihr (isOperand_right path))

theorem fold_toValue (e : Expr) : e.toValue.fold evaluate = some e.outcome :=
  reduceFrom_toValue e rfl none

end Descent.Calculator
