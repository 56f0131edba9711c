import Descent.Fold

/-!
# Reducers as data

A reducer may be written as a list of clauses. Each clause has conditions and an answer; the first
clause all of whose conditions hold at a node decides, and without one the node is kept.
-/

namespace Descent

/-- A condition on a node at which a reducer is called. -/
inductive Condition where
  /-- The type of the node. -/
  | type (name : String)
  /-- The node as it was equals a value. -/
  | equals (value : Value)
  /-- The length of the path. -/
  | depth (n : Nat)
  /-- The text of the path. -/
  | path (text : String)
  /-- The last step is a key. -/
  | key (k : String)
  /-- The last step is an index. -/
  | index (i : Nat)
  /-- The type of the parent, where the root has `none`. -/
  | parent (name : String)
  /-- The number of folded children. -/
  | length (n : Nat)
  /-- Whether there are no folded children. -/
  | empty (expected : Bool)
  /-- There is a folded child under a key. -/
  | has (k : String)
  /-- There is a folded child that stood at an index. -/
  | hasAt (i : Nat)

/-- What a reducer answers. -/
inductive Answer where
  | keep
  | remove
  | const (value : Value)
  /-- The node as it was. -/
  | node
  /-- The parent as it was. -/
  | parent
  /-- The steps of the path. -/
  | path
  /-- The folded child under a key. -/
  | get (k : String)
  /-- The folded child that stood at an index. -/
  | item (i : Nat)
  /-- The number of folded children. -/
  | length
  /-- The folded children. -/
  | values
  /-- The folded children with their steps. -/
  | entries
  /-- The sum of the folded children that are integers. -/
  | sum
  /-- The folded children that are strings, in parentheses with a separator between them. -/
  | join (separator : String)
  /-- A value and the node as it was. -/
  | wrap (value : Value)

namespace Visit

/-- The type of the parent, or `none` at the root. -/
def parentType (v : Visit) : String := (v.parent.map Value.typeName).getD "none"

end Visit

namespace Condition

/-- Whether a condition holds at a node. -/
def holds (condition : Condition) (folded : Folded) (visit : Visit) : Bool :=
  match condition with
  | type name => visit.node.typeName == name
  | equals value => visit.node.equals value
  | depth n => visit.path.length == n
  | path text => visit.path.text == text
  | key k => visit.path.getLast?.any fun s => s.key? == some k
  | index i => visit.path.getLast?.any fun s => s.index? == some i
  | parent name => visit.parentType == name
  | length n => List.length folded == n
  | empty expected => folded.isEmpty == expected
  | has k => (folded.get? k).isSome
  | hasAt i => (folded.at? i).isSome

end Condition

namespace Segment

/-- A step as a value: its text, and what it is as a key and as an index. -/
def toValue (s : Segment) : Value :=
  .arr [.str s.text,
    match s.key? with
    | some k => .str k
    | none => .null,
    match s.index? with
    | some i => .int i
    | none => .null]

end Segment

namespace Answer

/-- The decision that an answer stands for. -/
def reduction (answer : Answer) (folded : Folded) (visit : Visit) : Reduction :=
  match answer with
  | keep => .keep
  | remove => .remove
  | const value => .replace value
  | node => .replace visit.node
  | parent => .replace (visit.parent.getD (.str "none"))
  | path => .replace (.arr (visit.path.map Segment.toValue))
  | get k => .replace ((folded.get? k).getD (.str "absent"))
  | item i => .replace ((folded.at? i).getD (.str "absent"))
  | length => .replace (.int (List.length folded))
  | values => .replace (.arr folded.values)
  | entries => .replace (.arr (folded.map fun e => .arr [e.1.toValue, e.2]))
  | sum => .replace (.int (Value.sum folded.values))
  | join separator =>
    .replace (.str ("(" ++ separator.intercalate (folded.values.filterMap Value.text?) ++ ")"))
  | wrap value => .replace (.arr [value, visit.node])

end Answer

/-- Conditions that all have to hold, and an answer. -/
structure Clause where
  conditions : List Condition
  answer : Answer

namespace Clause

/-- The reducer that a list of clauses describes. -/
def reducer (clauses : List Clause) (folded : Folded) (visit : Visit) : Reduction :=
  match clauses.find? fun c => c.conditions.all (·.holds folded visit) with
  | some clause => clause.answer.reduction folded visit
  | none => .keep

end Clause

end Descent
