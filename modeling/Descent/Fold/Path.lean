import Descent.Json.Value

/-!
# Paths in a tree

A step from a node to a child is an index or a key, and a path is the list of steps from the root.
A node can be taken apart into its children, each with the step that leads to it, and rebuilt from
such a list; the steps of items of an array are forgotten then, and an object takes only what has a
key.
-/

namespace Descent

/-- A step from a node to one of its children. -/
inductive Segment where
  | index (i : Nat)
  | key (k : String)
deriving DecidableEq, Repr

namespace Segment

def key? : Segment → Option String
  | key k => some k
  | index _ => none

def index? : Segment → Option Nat
  | index i => some i
  | key _ => none

/-- The text of a step. -/
def text : Segment → String
  | index i => String.ofList (Nat.toDigits 10 i)
  | key k => k

end Segment

/-- The steps from the root to a node. -/
abbrev Path := List Segment

namespace Path

/-- The steps of a path, joined by slashes. -/
def text (path : Path) : String := "/".intercalate (path.map Segment.text)

end Path

namespace Value

/-- The children of a node in order. Scalars have none. -/
def children : Value → List (Segment × Value)
  | arr items => items.zipIdx.map fun (item, i) => (.index i, item)
  | obj members => members.map fun (k, v) => (.key k, v)
  | _ => []

/-- The node of the same kind around given children. -/
def rebuild (v : Value) (children : List (Segment × Value)) : Value :=
  match v with
  | arr _ => arr (children.map (·.2))
  | obj _ =>
    ofMembers (children.filterMap fun (segment, child) => segment.key?.map fun k => (k, child))
  | leaf => leaf

/-- The child behind a step. -/
def child? (v : Value) (segment : Segment) : Option Value :=
  match v, segment with
  | arr items, .index i => items[i]?
  | obj members, .key k => (members.find? (·.1 == k)).map (·.2)
  | _, _ => none

/-- The node at the end of a path. -/
def at? (v : Value) : Path → Option Value
  | [] => some v
  | segment :: rest => (v.child? segment).bind fun child => child.at? rest

end Value

end Descent
