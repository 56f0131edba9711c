import Mathlib.Data.List.Pairwise
import Mathlib.Data.Set.Function
import Descent.Proofs.Fold.Selection

/-!
# Removing nodes

A reducer that removes the selected nodes and keeps all else works from the leaves up, so it also
removes what it has looked at in vain below a selected node. `Value.prune` goes from the root down
and stops at what is selected. That the two agree is `Value.fold_removing`.

A node of the tree is spared if neither it nor a node above it is selected (`Value.Spared`). The
spared nodes and no others are in the pruned tree. They stand under the paths to them, in which
every index has become the number of spared items before it (`Value.renumber`).
-/

namespace Descent.Value

variable {v node child tree result : Value} {path rest more : Path} {step : Segment}
  {parent : Option Value} {selects : Visit → Bool}

/-- The reducer that removes what is selected and keeps all else. -/
def removing (selects : Visit → Bool) : Folded → Visit → Reduction := fun _ visit =>
  if selects visit then .remove else .keep

mutual

/-- The node at the end of a path without what is selected below it, from the root down. -/
def pruneFrom (selects : Visit → Bool) : Value → Path → Value
  | .arr items, path => .arr (pruneItems selects (.arr items) path 0 items)
  | .obj members, path => .obj (pruneMembers selects (.obj members) path members)
  | leaf, _ => leaf

/-- The items of an array from an index on, without what is selected. -/
def pruneItems (selects : Visit → Bool) (parent : Value) (path : Path) :
    Nat → List Value → List Value
  | _, [] => []
  | i, item :: rest =>
    if selects ⟨item, path ++ [.index i], some parent⟩ then
      pruneItems selects parent path (i + 1) rest
    else
      pruneFrom selects item (path ++ [.index i]) :: pruneItems selects parent path (i + 1) rest

/-- The members of an object without what is selected. -/
def pruneMembers (selects : Visit → Bool) (parent : Value) (path : Path) :
    List (String × Value) → List (String × Value)
  | [] => []
  | (k, value) :: rest =>
    if selects ⟨value, path ++ [.key k], some parent⟩ then pruneMembers selects parent path rest
    else
      (k, pruneFrom selects value (path ++ [.key k])) :: pruneMembers selects parent path rest

end

/-- A tree without what is selected below its root. -/
def prune (tree : Value) (selects : Visit → Bool) : Value := pruneFrom selects tree []

/-- Whether a child is not selected. -/
def spares (selects : Visit → Bool) (node : Value) (path : Path) (step : Segment)
    (child : Value) : Bool :=
  !selects ⟨child, path ++ [step], some node⟩

/-- What is left of a child. -/
def pruneChild (selects : Visit → Bool) (node : Value) (path : Path) (step : Segment)
    (child : Value) : Option Value :=
  if selects ⟨child, path ++ [step], some node⟩ then none
  else some (pruneFrom selects child (path ++ [step]))

theorem isSome_pruneChild (selects : Visit → Bool) (node : Value) (path : Path) :
    (fun step child => (pruneChild selects node path step child).isSome)
      = spares selects node path := by
  funext step child
  rw [pruneChild, spares]
  cases selects ⟨child, path ++ [step], some node⟩ <;> rfl

theorem pruneItems_eq (parent : Value) (i : Nat) (items : List Value) :
    pruneItems selects parent path i items
      = ((items.zipIdx i).map fun (item, i) => (Segment.index i, item)).filterMap
          fun (step, child) => pruneChild selects parent path step child := by
  induction items generalizing i with
  | nil => rfl
  | cons item rest ih =>
    rw [pruneItems, ih, List.zipIdx_cons, List.map_cons, List.filterMap_cons]
    cases hitem : selects ⟨item, path ++ [.index i], some parent⟩ <;>
      simp only [pruneChild, hitem] <;> rfl

theorem pruneMembers_eq (parent : Value) (members : List (String × Value)) :
    pruneMembers selects parent path members
      = members.filterMap fun (k, value) =>
          (pruneChild selects parent path (.key k) value).map (k, ·) := by
  induction members with
  | nil => rfl
  | cons member rest ih =>
    obtain ⟨k, value⟩ := member
    rw [pruneMembers, ih, List.filterMap_cons]
    cases hvalue : selects ⟨value, path ++ [.key k], some parent⟩ <;>
      simp only [pruneChild, hvalue] <;> rfl

/-- Pruning a node is leaving out what is selected among its children and pruning the others. -/
theorem pruneFrom_eq (v : Value) (path : Path) :
    pruneFrom selects v path = v.chooseChildren (pruneChild selects v path) := by
  cases v with
  | arr items => rw [pruneFrom, pruneItems_eq, chooseChildren, children]
  | obj members => rw [pruneFrom, pruneMembers_eq, chooseChildren]
  | _ => rfl

/-! ## The fold -/

theorem reduceFrom_removing (hv : v.Ordered) :
    reduceFrom (removing selects) v path parent
      = if selects ⟨v, path, parent⟩ then none else some (pruneFrom selects v path) := by
  induction v using children_induction generalizing path parent with
  | h v ih =>
  -- the children come to what pruning leaves of them
  have hfolded : (v.children.filterMap fun (step, child) =>
        (reduceFrom (removing selects) child (path ++ [step]) (some v)).map (step, ·))
      = v.children.filterMap fun (step, child) =>
          (pruneChild selects v path step child).map (step, ·) := by
    refine List.filterMap_congr fun entry hentry => ?_
    simp only [ih entry hentry (hv.of_mem_children hentry), pruneChild]
  rw [reduceFrom_eq, hfolded, pruneFrom_eq, ← rebuild_filterMap_children hv]
  cases hself : selects ⟨v, path, parent⟩ <;> simp only [removing, hself] <;> rfl

theorem fold_eq_prune (htree : tree.Ordered) (selects : Visit → Bool) :
    tree.fold (removing selects)
      = if selects ⟨tree, [], none⟩ then none else some (tree.prune selects) :=
  (fold_eq _ tree).trans (reduceFrom_removing htree)

/-- Pruning keeps the order of keys. -/
theorem Ordered.pruneFrom (hv : v.Ordered) (path : Path) :
    (pruneFrom selects v path).Ordered := by
  induction v using children_induction generalizing path with
  | h v ih =>
  rw [pruneFrom_eq]
  refine hv.chooseChildren fun entry hentry kept hkept => ?_
  rw [pruneChild] at hkept
  split at hkept
  · nomatch hkept
  · obtain rfl := Option.some.inj hkept
    exact ih entry hentry (hv.of_mem_children hentry) _

/-! ## Along a path -/

/-- The path of a node of the tree once the gaps are closed. -/
def renumberFrom (selects : Visit → Bool) : Value → Path → Path → Path
  | _, _, [] => []
  | node, path, step :: rest =>
    node.moved (spares selects node path) step ::
      match node.child? step with
      | some child => renumberFrom selects child (path ++ [step]) rest
      | none => []

/-- The path in the pruned tree of a node that is spared. -/
def renumber (tree : Value) (selects : Visit → Bool) (path : Path) : Path :=
  renumberFrom selects tree [] path

/-- Whether no node on the way from one node to another is selected, nor one of the two. -/
def SparedFrom (selects : Visit → Bool) (v : Value) (path : Path) (parent : Option Value)
    (rest : Path) : Prop :=
  ∀ visit ∈ v.postorderFrom path parent, visit.path <+: path ++ rest → selects visit = false

/-- Whether neither the node at the end of a path nor a node above it is selected. -/
def Spared (selects : Visit → Bool) (tree : Value) (path : Path) : Prop :=
  ∀ visit ∈ tree.postorder, visit.path <+: path → selects visit = false

theorem sparedFrom_iff (hv : v.Ordered) :
    SparedFrom selects v path parent rest ↔
      ∀ before node, before <+: rest → v.at? before = some node →
        selects ⟨node, path ++ before, if before = [] then parent else v.at? before.dropLast⟩
          = false := by
  constructor
  · intro h before node hinitial hnode
    refine h _ ((mem_postorderFrom_iff hv).2 ⟨before, rfl, hnode, rfl⟩) ?_
    exact (List.prefix_append_right_inj path).2 hinitial
  · rintro h ⟨node, _, _⟩ hvisit hinitial
    obtain ⟨before, rfl, hnode, rfl⟩ := (mem_postorderFrom_iff hv).1 hvisit
    exact h before node ((List.prefix_append_right_inj path).1 hinitial) hnode

theorem sparedFrom_nil (hv : v.Ordered) :
    SparedFrom selects v path parent [] ↔ selects ⟨v, path, parent⟩ = false := by
  rw [sparedFrom_iff hv]
  constructor
  · intro h
    have hself := h [] v (List.prefix_refl []) rfl
    rwa [List.append_nil] at hself
  · intro h before node hinitial hnode
    obtain rfl := List.prefix_nil.1 hinitial
    obtain rfl := Option.some.inj hnode
    rwa [List.append_nil]

theorem sparedFrom_cons (hv : v.Ordered) (hchild : v.child? step = some child) :
    SparedFrom selects v path parent (step :: rest) ↔
      selects ⟨v, path, parent⟩ = false ∧
        SparedFrom selects child (path ++ [step]) (some v) rest := by
  have hchildOrdered : child.Ordered := hv.of_mem_children ((mem_children_iff hv).2 hchild)
  rw [← sparedFrom_nil hv, sparedFrom_iff hv, sparedFrom_iff hv, sparedFrom_iff hchildOrdered]
  -- a node at or below the child is the same one, with the same parent, seen from both
  have hbelow (before : Path) (node : Value) :
      (v.at? (step :: before) = some node → selects ⟨node, path ++ step :: before,
          if step :: before = [] then parent else v.at? (step :: before).dropLast⟩ = false) ↔
        (child.at? before = some node → selects ⟨node, path ++ [step] ++ before,
          if before = [] then some v else child.at? before.dropLast⟩ = false) := by
    rw [if_neg (List.cons_ne_nil _ _), at?_dropLast_cons hchild, at?_cons, hchild,
      Option.bind_some, List.append_assoc, List.singleton_append]
  constructor
  · intro h
    refine ⟨fun before node hinitial => ?_, fun before node hinitial => ?_⟩
    · exact h before node (hinitial.trans List.nil_prefix)
    · exact (hbelow before node).1 (h _ node (List.cons_prefix_cons.2 ⟨rfl, hinitial⟩))
  · rintro ⟨hself, hrest⟩ before node hinitial
    obtain rfl | ⟨before, rfl, hbefore⟩ := List.prefix_cons_iff.1 hinitial
    · exact hself [] node (List.prefix_refl [])
    · exact (hbelow before node).2 (hrest before node hbefore)

theorem SparedFrom.self (h : SparedFrom selects v path parent rest) (hv : v.Ordered) :
    selects ⟨v, path, parent⟩ = false :=
  (sparedFrom_nil hv).1 fun visit hvisit hinitial =>
    h visit hvisit (hinitial.trans ((List.prefix_append_right_inj path).2 List.nil_prefix))

theorem SparedFrom.of_append (h : SparedFrom selects v path parent (rest ++ more)) (hv : v.Ordered)
    (hnode : v.at? rest = some node) :
    ∃ above, SparedFrom selects node (path ++ rest) above more := by
  induction rest generalizing v path parent with
  | nil =>
    obtain rfl := Option.some.inj hnode
    rw [List.append_nil]
    exact ⟨parent, h⟩
  | cons step rest ih =>
    obtain ⟨child, hchild, hnode⟩ := Option.bind_eq_some_iff.1 hnode
    have hordered : child.Ordered := hv.of_mem_children ((mem_children_iff hv).2 hchild)
    rw [List.append_cons]
    exact ih ((sparedFrom_cons hv hchild).1 h).2 hordered hnode

theorem renumberFrom_cons (hchild : v.child? step = some child) (rest : Path) :
    renumberFrom selects v path (step :: rest)
      = v.moved (spares selects v path) step
          :: renumberFrom selects child (path ++ [step]) rest := by
  rw [renumberFrom, hchild]

/-- A spared node stands under its new path, with what is left of its children. -/
theorem at?_pruneFrom (hv : v.Ordered) (hnode : v.at? rest = some node)
    (hspared : SparedFrom selects v path parent rest) :
    (pruneFrom selects v path).at? (renumberFrom selects v path rest)
      = some (pruneFrom selects node (path ++ rest)) := by
  induction rest generalizing v path parent with
  | nil =>
    obtain rfl := Option.some.inj hnode
    rw [List.append_nil]
    rfl
  | cons step rest ih =>
    obtain ⟨child, hchild, hnode⟩ := Option.bind_eq_some_iff.1 hnode
    have hordered : child.Ordered := hv.of_mem_children ((mem_children_iff hv).2 hchild)
    have hbelow := ((sparedFrom_cons hv hchild).1 hspared).2
    have hself : selects ⟨child, path ++ [step], some v⟩ = false := hbelow.self hordered
    have hkept : pruneChild selects v path step child
        = some (pruneFrom selects child (path ++ [step])) := by
      rw [pruneChild, hself]
      rfl
    -- the child stands under its moved step
    have hmoved := child?_chooseChildren hv hchild hkept
    rw [isSome_pruneChild, ← pruneFrom_eq] at hmoved
    rw [renumberFrom_cons hchild, at?_cons, hmoved, Option.bind_some, ih hordered hnode hbelow,
      List.append_assoc, List.singleton_append]

/-- Nothing but the spared nodes is in the pruned tree. -/
theorem exists_of_at?_pruneFrom {path' : Path} (hv : v.Ordered)
    (hself : selects ⟨v, path, parent⟩ = false)
    (h : (pruneFrom selects v path).at? path' = some result) :
    ∃ rest node, v.at? rest = some node ∧ SparedFrom selects v path parent rest ∧
      renumberFrom selects v path rest = path' := by
  induction path' generalizing v path parent with
  | nil => exact ⟨[], v, rfl, (sparedFrom_nil hv).2 hself, rfl⟩
  | cons step' path' ih =>
    obtain ⟨kept, hkept, h⟩ := Option.bind_eq_some_iff.1 h
    rw [pruneFrom_eq] at hkept
    obtain ⟨step, child, hchild, hleft, hmoved⟩ := exists_of_child?_chooseChildren hv hkept
    have hordered : child.Ordered := hv.of_mem_children ((mem_children_iff hv).2 hchild)
    cases hselects : selects ⟨child, path ++ [step], some v⟩ with
    | true =>
      rw [pruneChild, hselects] at hleft
      nomatch hleft
    | false =>
      rw [pruneChild, hselects] at hleft
      obtain rfl := Option.some.inj hleft
      obtain ⟨rest, node, hnode, hspared, hpath⟩ := ih hordered hselects h
      refine ⟨step :: rest, node, ?_, (sparedFrom_cons hv hchild).2 ⟨hself, hspared⟩, ?_⟩
      · rw [at?_cons, hchild, Option.bind_some, hnode]
      · rw [renumberFrom_cons hchild, hpath, ← hmoved, isSome_pruneChild]

theorem renumberFrom_append (hnode : v.at? rest = some node) (more : Path) :
    renumberFrom selects v path (rest ++ more)
      = renumberFrom selects v path rest ++ renumberFrom selects node (path ++ rest) more := by
  induction rest generalizing v path with
  | nil =>
    obtain rfl := Option.some.inj hnode
    rw [List.append_nil]
    rfl
  | cons step rest ih =>
    obtain ⟨child, hchild, hnode⟩ := Option.bind_eq_some_iff.1 hnode
    rw [List.cons_append, renumberFrom_cons hchild, renumberFrom_cons hchild, ih hnode,
      List.cons_append, List.append_assoc, List.singleton_append]

theorem map_key?_renumberFrom (h : (v.at? rest).isSome) :
    (renumberFrom selects v path rest).map Segment.key? = rest.map Segment.key? := by
  induction rest generalizing v path with
  | nil => rfl
  | cons step rest ih =>
    obtain ⟨node, hnode⟩ := Option.isSome_iff_exists.1 h
    obtain ⟨child, hchild, hnode⟩ := Option.bind_eq_some_iff.1 hnode
    rw [renumberFrom_cons hchild, List.map_cons, List.map_cons,
      ih (Option.isSome_iff_exists.2 ⟨node, hnode⟩)]
    cases step <;> rfl

/-- Closing the gaps keeps the order of the nodes. -/
theorem earlier_renumberFrom {before later : Path} (hv : v.Ordered) (h : before.Earlier later)
    (hbefore : (v.at? before).isSome) (hlater : (v.at? later).isSome)
    (hspared : SparedFrom selects v path parent before) :
    (renumberFrom selects v path before).Earlier (renumberFrom selects v path later) := by
  obtain ⟨node, hnode⟩ := Option.isSome_iff_exists.1 hbefore
  cases h with
  | below later step rest =>
    rw [at?_append] at hnode
    obtain ⟨above, habove, hnode⟩ := Option.bind_eq_some_iff.1 hnode
    obtain ⟨child, hchild, -⟩ := Option.bind_eq_some_iff.1 hnode
    -- the path to the upper node stays a beginning of the other one
    rw [renumberFrom_append habove, renumberFrom_cons hchild]
    exact .below _ _ _
  | @beside common step other rest rest' hsteps =>
    rw [at?_append] at hnode
    obtain ⟨above, habove, hnode⟩ := Option.bind_eq_some_iff.1 hnode
    obtain ⟨child, hchild, -⟩ := Option.bind_eq_some_iff.1 hnode
    obtain ⟨node', hnode'⟩ := Option.isSome_iff_exists.1 hlater
    rw [at?_append, habove, Option.bind_some] at hnode'
    obtain ⟨child', hchild', -⟩ := Option.bind_eq_some_iff.1 hnode'
    have habove' : above.Ordered := hv.of_at? habove
    have hordered : child.Ordered := habove'.of_mem_children ((mem_children_iff habove').2 hchild)
    -- the earlier child is kept, so it counts for the index of the later one
    obtain ⟨parent', hspared⟩ := hspared.of_append hv habove
    have hself := ((sparedFrom_cons habove' hchild).1 hspared).2.self hordered
    rw [renumberFrom_append habove, renumberFrom_append habove, renumberFrom_cons hchild,
      renumberFrom_cons hchild']
    refine .beside _ _ _ (hsteps.moved hchild ?_)
    rw [spares, hself]
    rfl

/-- Of two nodes of a tree one comes first. -/
theorem earlier_or_earlier (htree : tree.Ordered) {path other : Path} (hne : path ≠ other)
    (hpath : (tree.at? path).isSome) (hother : (tree.at? other).isSome) :
    path.Earlier other ∨ other.Earlier path := by
  have hmem {path : Path} (hpath : (tree.at? path).isSome) :
      path ∈ tree.postorder.map Visit.path := by
    obtain ⟨node, hnode⟩ := Option.isSome_iff_exists.1 hpath
    let visit : Visit := ⟨node, path, if path = [] then none else tree.at? path.dropLast⟩
    have hvisit : visit ∈ tree.postorder := (mem_postorder_iff htree).2 ⟨hnode, rfl⟩
    exact List.mem_map_of_mem hvisit
  have hsymm : Std.Symm fun a b : Path => a.Earlier b ∨ b.Earlier a := ⟨fun _ _ => Or.symm⟩
  -- both nodes are in the list, which is in this order
  have heither : (tree.postorder.map Visit.path).Pairwise fun a b => a.Earlier b ∨ b.Earlier a :=
    (pairwise_postorder htree).imp Or.inl
  exact heither.forall (hmem hpath) (hmem hother) hne

/-! ## Pruning twice -/

/-- Whether a value has no place for children. -/
def IsScalar : Value → Prop
  | arr _ => False
  | obj _ => False
  | _ => True

section

variable {hits : Value → Bool} (hhits : ∀ v, hits v = true → v.IsScalar)

include hhits

/-- Pruning does not make an array or object that is selected. -/
theorem hits_pruneFrom (h : hits v = false) : hits (pruneFrom selects v path) = false := by
  cases v with
  | arr items => exact Bool.eq_false_iff.2 fun htrue => hhits _ htrue
  | obj members => exact Bool.eq_false_iff.2 fun htrue => hhits _ htrue
  | _ => exact h

theorem pruneFrom_pruneFrom (v : Value) (path path' : Path) :
    pruneFrom (fun visit => hits visit.node) (pruneFrom (fun visit => hits visit.node) v path) path'
      = pruneFrom (fun visit => hits visit.node) v path := by
  induction v using children_induction generalizing path path' with
  | h v ih =>
  rw [pruneFrom_eq (pruneFrom _ v path)]
  refine chooseChildren_eq_self fun (step', kept) hentry => ?_
  rw [pruneFrom_eq] at hentry
  obtain ⟨step, child, hchild, hkept⟩ := mem_children_chooseChildren hentry
  -- a child that is left was not selected, and it still is not once it is pruned itself
  cases hhit : hits child with
  | true =>
    rw [pruneChild, if_pos hhit] at hkept
    nomatch hkept
  | false =>
    rw [pruneChild, if_neg (Bool.eq_false_iff.1 hhit)] at hkept
    obtain rfl := Option.some.inj hkept
    rw [pruneChild, if_neg (Bool.eq_false_iff.1 (hits_pruneFrom hhits hhit))]
    exact congrArg some (ih _ hchild _ _)

theorem fold_prune (htree : tree.Ordered) (hroot : hits tree = false) :
    (tree.prune fun visit => hits visit.node).fold (removing fun visit => hits visit.node)
      = some (tree.prune fun visit => hits visit.node) := by
  have hordered : (tree.prune fun visit => hits visit.node).Ordered := htree.pruneFrom []
  have hpruned : hits (tree.prune fun visit => hits visit.node) = false :=
    hits_pruneFrom hhits hroot
  rw [fold_eq_prune hordered, if_neg (Bool.eq_false_iff.1 hpruned)]
  exact congrArg some (pruneFrom_pruneFrom hhits tree [] [])

end

/-! ## Main result -/

/-- Folding with a reducer that removes what is selected and keeps all else leaves nothing exactly
if the root is selected, and else the tree pruned from the root down. The paths to the spared nodes
and those of the pruned tree correspond one to one, in their order and with the same keys, and at
the end of such a path is the node without its selected children, so a scalar as it was. If only
scalars are selected, by nothing but themselves, folding again changes nothing. -/
theorem fold_removing (htree : tree.Ordered) (selects : Visit → Bool) :
    (tree.fold (removing selects) = none ↔ selects ⟨tree, [], none⟩ = true) ∧
      (selects ⟨tree, [], none⟩ = false →
        tree.fold (removing selects) = some (tree.prune selects) ∧
        Set.BijOn (tree.renumber selects)
          {path | (tree.at? path).isSome ∧ Spared selects tree path}
          {path | ((tree.prune selects).at? path).isSome}) ∧
      (∀ path node, tree.at? path = some node → Spared selects tree path →
        (tree.prune selects).at? (tree.renumber selects path)
            = some (node.chooseChildren (pruneChild selects node path)) ∧
          (tree.renumber selects path).map Segment.key? = path.map Segment.key?) ∧
      (∀ path other, (tree.at? path).isSome → (tree.at? other).isSome →
        Spared selects tree path → path.Earlier other →
          (tree.renumber selects path).Earlier (tree.renumber selects other)) ∧
      ∀ hits : Value → Bool, (∀ v, hits v = true → v.IsScalar) →
        ∀ result, tree.fold (removing fun visit => hits visit.node) = some result →
          result.fold (removing fun visit => hits visit.node) = some result := by
  have hnode {path : Path} {node : Value} (h : tree.at? path = some node)
      (hspared : Spared selects tree path) :
      (tree.prune selects).at? (tree.renumber selects path) = some (pruneFrom selects node path) :=
    at?_pruneFrom htree h hspared
  have hearlier {path other : Path} (hpath : (tree.at? path).isSome)
      (hother : (tree.at? other).isSome) (hspared : Spared selects tree path)
      (h : path.Earlier other) :
      (tree.renumber selects path).Earlier (tree.renumber selects other) :=
    earlier_renumberFrom htree h hpath hother hspared
  refine ⟨?_, fun hself => ⟨?_, ?_, ?_, ?_⟩, fun path node h hspared => ⟨?_, ?_⟩,
    fun path other => hearlier, fun hits hhits result hresult => ?_⟩
  · rw [fold_eq_prune htree]
    cases selects ⟨tree, [], none⟩ <;> simp
  · rw [fold_eq_prune htree, hself]
    rfl
  · rintro path ⟨hpath, hspared⟩
    obtain ⟨node, h⟩ := Option.isSome_iff_exists.1 hpath
    exact Option.isSome_iff_exists.2 ⟨_, hnode h hspared⟩
  · -- two paths of the tree are in order, and so are the new ones
    rintro path ⟨hpath, hspared⟩ other ⟨hother, hspared'⟩ heq
    by_contra hne
    obtain h | h := earlier_or_earlier htree hne hpath hother
    · exact (hearlier hpath hother hspared h).ne heq
    · exact (hearlier hother hpath hspared' h).ne heq.symm
  · intro path' hpath'
    obtain ⟨result, hresult⟩ := Option.isSome_iff_exists.1 hpath'
    obtain ⟨path, node, h, hspared, hpath⟩ := exists_of_at?_pruneFrom htree hself hresult
    exact ⟨path, ⟨Option.isSome_iff_exists.2 ⟨node, h⟩, hspared⟩, hpath⟩
  · rw [hnode h hspared, pruneFrom_eq]
  · exact map_key?_renumberFrom (Option.isSome_iff_exists.2 ⟨node, h⟩)
  · rw [fold_eq_prune htree] at hresult
    split at hresult
    · nomatch hresult
    · rename_i hroot
      obtain rfl := Option.some.inj hresult
      exact fold_prune hhits htree (Bool.eq_false_iff.2 hroot)

/-- The third item becomes the first one, and nothing below a selected node matters. -/
theorem fold_removing_nulls :
    let inner : Value := .arr [.null, .obj [("b", .null)], .int 3]
    let tree : Value := .obj [("a", inner), ("c", .null)]
    let selects : Visit → Bool := fun visit =>
      match visit.node with
      | .null => true
      | .obj _ => visit.path = [.key "a", .index 1]
      | _ => false
    tree.Ordered ∧ tree.fold (removing selects) = some (.obj [("a", .arr [.int 3])]) ∧
      tree.renumber selects [.key "a", .index 2] = [.key "a", .index 0] := by
  intro inner tree selects
  have hkeys : KeysAscend [("a", inner), ("c", .null)] := List.pairwise_pair.2 (by decide)
  have htree : tree.Ordered :=
    ⟨hkeys, ⟨trivial, ⟨List.pairwise_singleton _ _, trivial, trivial⟩, trivial, trivial⟩, trivial,
      trivial⟩
  obtain ⟨-, hfold, -⟩ := fold_removing htree selects
  exact ⟨htree, (hfold rfl).1, rfl⟩

end Descent.Value
