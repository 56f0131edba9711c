import Descent.Proofs.Fold.Walk

/-!
# Putting values at places

A reducer that answers with a value at some paths and keeps all other nodes changes a tree at these
paths and nowhere else. The fold works from the leaves up, and what it puts at a path may disappear
in what it puts further up. `Value.overwrite` says the same from the root down: where there is a
value for the path, that value, and else the node with its children overwritten in their turn. That
the two agree is `Value.fold_overwriting`.

Read along a path, the overwritten tree has the value of the shallowest path with one
(`at?_overwriteFrom`), and above that the node that was there, of the same kind and with the same
steps. So paths that lead nowhere do not matter (`overwriteFrom_congr`), and without any value the
tree is what it was.
-/

namespace Descent.Value

variable {v node tree : Value} {path : Path} {parent : Option Value}
  {changes others : Path → Option Value}

/-- The reducer that puts values at paths and keeps all else. -/
def overwriting (changes : Path → Option Value) : Folded → Visit → Reduction := fun _ visit =>
  match changes visit.path with
  | some value => .replace value
  | none => .keep

mutual

/-- The tree at the end of a path with values put at paths, from the root down. -/
def overwriteFrom (changes : Path → Option Value) : Value → Path → Value
  | .arr items, path => (changes path).getD (.arr (overwriteItems changes path 0 items))
  | .obj members, path => (changes path).getD (.obj (overwriteMembers changes path members))
  | leaf, path => (changes path).getD leaf

/-- The items of an array from an index on, with values put at paths. -/
def overwriteItems (changes : Path → Option Value) (path : Path) : Nat → List Value → List Value
  | _, [] => []
  | i, item :: rest =>
    overwriteFrom changes item (path ++ [.index i]) :: overwriteItems changes path (i + 1) rest

/-- The members of an object with values put at paths. -/
def overwriteMembers (changes : Path → Option Value) (path : Path) :
    List (String × Value) → List (String × Value)
  | [] => []
  | (k, value) :: rest =>
    (k, overwriteFrom changes value (path ++ [.key k])) :: overwriteMembers changes path rest

end

/-- A tree with values put at paths. -/
def overwrite (tree : Value) (changes : Path → Option Value) : Value :=
  overwriteFrom changes tree []

theorem overwriteItems_eq (i : Nat) (items : List Value) :
    overwriteItems changes path i items
      = (items.zipIdx i).map fun (item, i) => overwriteFrom changes item (path ++ [.index i]) := by
  induction items generalizing i with
  | nil => rfl
  | cons item rest ih => rw [overwriteItems, ih, List.zipIdx_cons, List.map_cons]

theorem overwriteMembers_eq (members : List (String × Value)) :
    overwriteMembers changes path members
      = members.map fun (k, value) => (k, overwriteFrom changes value (path ++ [.key k])) := by
  induction members with
  | nil => rfl
  | cons member rest ih => rw [overwriteMembers, ih, List.map_cons]

/-- A value for the path takes the place of the node; without one the children are overwritten. -/
theorem overwriteFrom_eq (v : Value) (path : Path) :
    overwriteFrom changes v path
      = (changes path).getD
          (v.mapChildren fun step child => overwriteFrom changes child (path ++ [step])) := by
  cases v with
  | arr items => rw [overwriteFrom, overwriteItems_eq, mapChildren]
  | obj members => rw [overwriteFrom, overwriteMembers_eq, mapChildren]
  | _ => rfl

theorem overwriteFrom_of_none (h : changes path = none) (v : Value) :
    overwriteFrom changes v path
      = v.mapChildren fun step child => overwriteFrom changes child (path ++ [step]) := by
  rw [overwriteFrom_eq, h, Option.getD_none]

theorem overwriteFrom_of_some {value : Value} (h : changes path = some value) (v : Value) :
    overwriteFrom changes v path = value := by
  rw [overwriteFrom_eq, h, Option.getD_some]

/-! ## The fold -/

/-- Folding a node with the reducer overwrites it, so no node is removed. -/
theorem reduceFrom_overwriting (hv : v.Ordered) :
    reduceFrom (overwriting changes) v path parent = some (overwriteFrom changes v path) := by
  induction v using children_induction generalizing path parent with
  | h v ih =>
  have hchildren : ∀ entry ∈ v.children,
      reduceFrom (overwriting changes) entry.2 (path ++ [entry.1]) (some v)
        = some (overwriteFrom changes entry.2 (path ++ [entry.1])) :=
    fun entry hentry => ih entry hentry (hv.of_mem_children hentry)
  rw [reduceFrom_eq_of_children (fun step child => overwriteFrom changes child (path ++ [step]))
    parent hchildren]
  cases hchange : changes path with
  | some value => simp only [overwriting, hchange, Reduction.apply, overwriteFrom_of_some hchange]
  | none =>
    simp only [overwriting, hchange, Reduction.apply, overwriteFrom_of_none hchange]
    rw [← rebuild_map_children hv]

/-! ## Along a path -/

/-- What a path leads to after overwriting, if there is no value for a path on the way. -/
theorem at?_overwriteFrom {rest : Path}
    (h : ∀ before, before <+: rest → before ≠ rest → changes (path ++ before) = none) :
    (overwriteFrom changes v path).at? rest
      = (v.at? rest).map fun node => overwriteFrom changes node (path ++ rest) := by
  induction rest generalizing v path with
  | nil =>
    rw [List.append_nil]
    rfl
  | cons step rest ih =>
    have hpath : changes path = none := by
      have hnil := h [] List.nil_prefix (List.cons_ne_nil _ _).symm
      rwa [List.append_nil] at hnil
    rw [overwriteFrom_of_none hpath, at?_cons, at?_cons, child?_mapChildren, Option.bind_map,
      Option.map_bind]
    refine Option.bind_congr fun child _ => ?_
    rw [Function.comp_apply, Function.comp_apply, ih, List.append_assoc, List.singleton_append]
    intro before hbefore hne
    rw [List.append_assoc, List.singleton_append]
    exact h (step :: before) (List.cons_prefix_cons.2 ⟨rfl, hbefore⟩) (by simpa using hne)

/-- Values for paths that lead nowhere do not matter. -/
theorem overwriteFrom_congr (hv : v.Ordered)
    (h : ∀ rest, (v.at? rest).isSome → changes (path ++ rest) = others (path ++ rest)) :
    overwriteFrom changes v path = overwriteFrom others v path := by
  induction v using children_induction generalizing path with
  | h v ih =>
  have hpath : changes path = others path := by
    have hnil := h [] rfl
    rwa [List.append_nil] at hnil
  rw [overwriteFrom_eq, overwriteFrom_eq, hpath]
  -- below the node only paths that lead somewhere from a child are asked for
  congr 1
  refine mapChildren_congr fun entry hentry => ih entry hentry (hv.of_mem_children hentry) ?_
  intro rest hrest
  have hstep : v.child? entry.1 = some entry.2 := (mem_children_iff hv).1 hentry
  rw [List.append_assoc, List.singleton_append]
  refine h (entry.1 :: rest) ?_
  rwa [at?_cons, hstep, Option.bind_some]

theorem overwriteFrom_none (v : Value) (path : Path) :
    overwriteFrom (fun _ => none) v path = v := by
  induction v using children_induction generalizing path with
  | h v ih =>
  rw [overwriteFrom_of_none rfl]
  exact (mapChildren_congr fun entry hentry => ih entry hentry _).trans mapChildren_self

/-! ## Main result -/

/-- Folding with a reducer that puts values at paths and keeps all else gives the tree overwritten
from the root down. The value of the shallowest path is what that path leads to; a node at no such
path, nor below one, is as it was but for its children, which stand under the same steps; values for
paths that lead nowhere do not matter; and without any values the tree is what it was. -/
theorem fold_overwriting (htree : tree.Ordered) (changes : Path → Option Value) :
    tree.fold (overwriting changes) = some (tree.overwrite changes) ∧
      (∀ path value, (tree.at? path).isSome → changes path = some value →
        (∀ before, before <+: path → before ≠ path → changes before = none) →
          (tree.overwrite changes).at? path = some value) ∧
      (∀ path node, tree.at? path = some node →
        (∀ before, before <+: path → changes before = none) →
          ∃ f, (tree.overwrite changes).at? path = some (node.mapChildren f)) ∧
      (∀ others, (∀ path, (tree.at? path).isSome → changes path = others path) →
        tree.fold (overwriting others) = tree.fold (overwriting changes)) ∧
      tree.fold (overwriting fun _ => none) = some tree := by
  have hfold (changes : Path → Option Value) :
      tree.fold (overwriting changes) = some (tree.overwrite changes) :=
    (fold_eq _ tree).trans (reduceFrom_overwriting htree)
  refine ⟨hfold changes, fun path value hsome hvalue hbefore => ?_,
    fun path node hnode hbefore => ?_, fun others hothers => ?_, ?_⟩
  · obtain ⟨node, hnode⟩ := Option.isSome_iff_exists.1 hsome
    rw [overwrite, at?_overwriteFrom hbefore, hnode, Option.map_some]
    exact congrArg some (overwriteFrom_of_some hvalue node)
  · have hpath : changes path = none := hbefore path (List.prefix_refl path)
    rw [overwrite, at?_overwriteFrom fun before hprefix _ => hbefore before hprefix, hnode,
      Option.map_some]
    exact ⟨_, congrArg some (overwriteFrom_of_none hpath node)⟩
  · rw [hfold, hfold, overwrite, overwrite]
    exact congrArg some (overwriteFrom_congr htree hothers).symm
  · rw [hfold, overwrite, overwriteFrom_none]

/-- A value below another one is lost, and an index does not lead to a key that looks like it. -/
theorem fold_overwriting_overlapping :
    let tree : Value := .obj [("0", .arr [.int 1, .obj [("1", .bool true)]]), ("a", .null)]
    let changes : Path → Option Value := fun path =>
      [([.key "0", .index 1, .key "1"], .str "inner"), ([.key "0", .index 1], .str "outer"),
        ([.index 0], .str "nowhere")].lookup path
    tree.Ordered ∧
      tree.fold (overwriting changes)
        = some (.obj [("0", .arr [.int 1, .str "outer"]), ("a", .null)]) ∧
      (tree.overwrite changes).at? [.key "0", .index 1] = some (.str "outer") := by
  intro tree changes
  have hkeys : KeysAscend [("0", .arr [.int 1, .obj [("1", .bool true)]]), ("a", .null)] :=
    List.pairwise_pair.2 (by decide)
  have htree : tree.Ordered :=
    ⟨hkeys, ⟨trivial, ⟨List.pairwise_singleton _ _, trivial, trivial⟩, trivial⟩, trivial, trivial⟩
  obtain ⟨hfold, hshallowest, -⟩ := fold_overwriting htree changes
  refine ⟨htree, hfold, hshallowest [.key "0", .index 1] (.str "outer") rfl rfl ?_⟩
  intro before hprefix hne
  simp only [List.prefix_cons_iff, List.prefix_nil] at hprefix
  obtain rfl | ⟨_, rfl, rfl | ⟨_, rfl, rfl⟩⟩ := hprefix
  · rfl
  · rfl
  · exact absurd rfl hne

end Descent.Value
