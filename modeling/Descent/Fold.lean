import Descent.Fold.Path
import Descent.Parser

/-!
# Folding a tree

A fold walks a tree from the leaves up. At every node a reducer sees the folded children, the node
as it was, the path to it and its parent as it was, and decides: another value, the node rebuilt
around its folded children, or nothing, in which case the node is missing from its parent.

The walk keeps one path, which grows by a step on the way down to a child and loses it again on the
way back. It is written for any monad, so a reducer may keep state of its own, and the order of its
calls can be observed. `Value.fold` is the walk without effects.
-/

namespace Descent

/-- What a reducer makes of a node. -/
inductive Reduction where
  /-- This value in its place. -/
  | replace (value : Value)
  /-- The node around its folded children. -/
  | keep
  /-- Nothing. -/
  | remove

/-- The folded children of a node without the removed ones, each under the step that led to it. -/
abbrev Folded := List (Segment × Value)

namespace Folded

/-- The folded child under a key. -/
def get? (folded : Folded) (key : String) : Option Value :=
  (folded.find? fun entry => entry.1.key? == some key).map (·.2)

/-- The folded child that stood at an index of the node. -/
def at? (folded : Folded) (index : Nat) : Option Value :=
  (folded.find? fun entry => entry.1.index? == some index).map (·.2)

/-- The folded children. -/
def values (folded : Folded) : List Value := folded.map (·.2)

end Folded

/-- What a reducer is told about a node, its folded children apart. -/
structure Visit where
  node : Value
  path : Path
  parent : Option Value

/-- A decision for every node. -/
abbrev Reducer (m : Type → Type) := Folded → Visit → m Reduction

namespace Reduction

/-- What is left of a node. -/
def apply (node : Value) (folded : Folded) : Reduction → Option Value
  | replace value => some value
  | keep => some (node.rebuild folded)
  | remove => none

end Reduction

namespace Value

variable {m : Type → Type} [Monad m]

/-- Lets the reducer decide about a node whose children have been folded. The path of the walk leads
to the node. -/
def reduceNode (reduce : Reducer m) (node : Value) (parent : Option Value) (folded : Folded) :
    StateT Path m (Option Value) := do
  let path ← get
  let reduction ← reduce folded ⟨node, path, parent⟩
  pure (reduction.apply node folded)

/-- Takes a step down, folds what is there, and takes the step back. What is left of the child stays
under its step. -/
def foldBelow (segment : Segment) (foldChild : StateT Path m (Option Value)) :
    StateT Path m Folded := do
  modify (· ++ [segment])
  let folded ← foldChild
  modify List.dropLast
  pure (folded.toList.map (segment, ·))

mutual

/-- Folds the node that the path of the walk leads to. -/
def foldAt (reduce : Reducer m) : Value → Option Value → StateT Path m (Option Value)
  | .arr items, parent => do
    let folded ← foldItems reduce (.arr items) 0 items
    reduceNode reduce (.arr items) parent folded
  | .obj members, parent => do
    let folded ← foldMembers reduce (.obj members) members
    reduceNode reduce (.obj members) parent folded
  | .null, parent => reduceNode reduce .null parent []
  | .bool b, parent => reduceNode reduce (.bool b) parent []
  | .int n, parent => reduceNode reduce (.int n) parent []
  | .float x, parent => reduceNode reduce (.float x) parent []
  | .str s, parent => reduceNode reduce (.str s) parent []

/-- Folds the items of an array from an index on. -/
def foldItems (reduce : Reducer m) (parent : Value) : Nat → List Value → StateT Path m Folded
  | _, [] => pure []
  | i, item :: rest => do
    let folded ← foldBelow (.index i) (foldAt reduce item (some parent))
    let others ← foldItems reduce parent (i + 1) rest
    pure (folded ++ others)

/-- Folds the members of an object. -/
def foldMembers (reduce : Reducer m) (parent : Value) :
    List (String × Value) → StateT Path m Folded
  | [] => pure []
  | (k, value) :: rest => do
    let folded ← foldBelow (.key k) (foldAt reduce value (some parent))
    let others ← foldMembers reduce parent rest
    pure (folded ++ others)

end

/-- Folds a tree with effects; the result is nothing if the root was removed. -/
def foldM (reduce : Reducer m) (tree : Value) : m (Option Value) :=
  (tree.foldAt reduce none).run' []

/-- Folds a tree. -/
def fold (reduce : Folded → Visit → Reduction) (tree : Value) : Option Value :=
  tree.foldM (fun folded visit => (pure (reduce folded visit) : Id Reduction))

end Value

/-! ## Calls -/

/-- One call of a reducer: what it was told, and what it decided. -/
structure Call where
  folded : Folded
  visit : Visit
  reduction : Reduction

/-- The reducer that also writes down each call. -/
def Reducer.noted {m : Type → Type} [Monad m] (reduce : Reducer m) :
    Reducer (StateT (List Call) m) :=
  fun folded visit => do
    let reduction ← reduce folded visit
    modify (· ++ [⟨folded, visit, reduction⟩])
    pure reduction

/-- Folds a tree with effects and lists the calls of the reducer in order. -/
def Value.foldNotedM {m : Type → Type} [Monad m] (reduce : Reducer m) (tree : Value) :
    m (Option Value × List Call) :=
  (tree.foldM reduce.noted).run []

/-- Folds a tree and lists the calls of the reducer in order. -/
def Value.foldNoted (reduce : Folded → Visit → Reduction) (tree : Value) :
    Option Value × List Call :=
  tree.foldNotedM (fun folded visit => (pure (reduce folded visit) : Id Reduction))

/-! ## Transformers -/

/-- A way to parse a text into a tree, and a reducer for the tree. -/
structure Transformer (κ : Type) where
  parse : String → Option (Parsed κ Value)
  reduce : Folded → Visit → Reduction

namespace Transformer

variable {κ : Type}

/-- Parses a text and folds the result, with the notes of the parse. -/
def run (t : Transformer κ) (source : String) : Option (Parsed κ (Option Value)) :=
  (t.parse source).map (·.map (·.fold t.reduce))

/-- Parses a text and folds the result. -/
def transform? (t : Transformer κ) (source : String) : Option (Except Error (Option Value)) :=
  (t.run source).map (·.result)

/-- How a transformer is shown. -/
def describe (_ : Transformer κ) : String := "Transformer \x7b .. \x7d"

end Transformer

namespace Parser

/-- A parser for trees, followed by a fold. -/
def toTransformer {κ : Type} [DecidableEq κ] (p : Parser κ Value)
    (reduce : Folded → Visit → Reduction) : Transformer κ := ⟨p.run, reduce⟩

end Parser

end Descent
