import Descent.Proofs.Fold.Postorder

/-!
# A fold as a recursion

What a fold leaves of a node can be told without a walk. It is what the reducer makes of the node,
given what is left of its children, and what is left of a child is told in the same way, one step
further down (`Value.remains`). A child of which nothing is left is not among the folded children of
its parent; the others stand there in order, each under the step that leads to it in the tree as it
was. So looking up a child by index or key finds what is left of that very child, however many
before it have gone (`Value.map_find?_remnants`).

The walk calls the reducer with just these children at every node (`Value.foldNoted_eq`).
-/

namespace Descent

namespace Value

/-! ## The recursion -/

section

variable (reduce : Folded → Visit → Reduction)

/-- What is left of a node whose folded children are given. -/
def decided (folded : Folded) (visit : Visit) : Option Value :=
  (reduce folded visit).apply visit.node folded

mutual

/-- What is left of the node at the end of a path. -/
def remains : Value → Path → Option Value → Option Value
  | .arr items, path, parent =>
    decided reduce (remainsOfItems (.arr items) path 0 items) ⟨.arr items, path, parent⟩
  | .obj members, path, parent =>
    decided reduce (remainsOfMembers (.obj members) path members) ⟨.obj members, path, parent⟩
  | leaf, path, parent => decided reduce [] ⟨leaf, path, parent⟩

/-- What is left of the items of an array from an index on, each under its index. -/
def remainsOfItems (parent : Value) (path : Path) : Nat → List Value → Folded
  | _, [] => []
  | i, item :: rest =>
    (remains item (path ++ [.index i]) (some parent)).toList.map (Segment.index i, ·)
      ++ remainsOfItems parent path (i + 1) rest

/-- What is left of the members of an object, each under its key. -/
def remainsOfMembers (parent : Value) (path : Path) : List (String × Value) → Folded
  | [] => []
  | (k, value) :: rest =>
    (remains value (path ++ [.key k]) (some parent)).toList.map (Segment.key k, ·)
      ++ remainsOfMembers parent path rest

end

/-- The children of which something is left, each under the step that leads to it. -/
def remnants (node : Value) (path : Path) : Folded :=
  node.children.filterMap fun (step, child) =>
    (remains reduce child (path ++ [step]) (some node)).map (step, ·)

end

variable {reduce : Folded → Visit → Reduction} {node tree : Value} {path : Path}

theorem remainsOfItems_eq (parent : Value) (path : Path) (i : Nat) (items : List Value) :
    remainsOfItems reduce parent path i items
      = ((items.zipIdx i).map fun (item, i) => (Segment.index i, item)).filterMap
          fun (step, child) =>
            (remains reduce child (path ++ [step]) (some parent)).map (step, ·) := by
  induction items generalizing i with
  | nil => rfl
  | cons item rest ih =>
    rw [remainsOfItems, ih, List.zipIdx_cons, List.map_cons, List.filterMap_cons]
    cases hitem : remains reduce item (path ++ [.index i]) (some parent) <;>
      simp only [hitem] <;> rfl

theorem remainsOfMembers_eq (parent : Value) (path : Path) (members : List (String × Value)) :
    remainsOfMembers reduce parent path members
      = (members.map fun (k, value) => (Segment.key k, value)).filterMap fun (step, child) =>
          (remains reduce child (path ++ [step]) (some parent)).map (step, ·) := by
  induction members with
  | nil => rfl
  | cons member rest ih =>
    obtain ⟨k, value⟩ := member
    rw [remainsOfMembers, ih, List.map_cons, List.filterMap_cons]
    cases hvalue : remains reduce value (path ++ [.key k]) (some parent) <;>
      simp only [hvalue] <;> rfl

/-- The reducer decides about a node by what is left of its children. -/
theorem remains_eq (v : Value) (path : Path) (parent : Option Value) :
    remains reduce v path parent = decided reduce (remnants reduce v path) ⟨v, path, parent⟩ := by
  cases v with
  | arr items => rw [remains, remainsOfItems_eq, remnants, children]
  | obj members => rw [remains, remainsOfMembers_eq, remnants, children]
  | _ => rfl

/-- The walk leaves of a node what the recursion says. -/
theorem reduceFrom_eq_remains (v : Value) (path : Path) (parent : Option Value) :
    reduceFrom reduce v path parent = remains reduce v path parent := by
  induction v using children_induction generalizing path parent with
  | h v ih =>
  have hfolded : (v.children.filterMap fun (step, child) =>
        (reduceFrom reduce child (path ++ [step]) (some v)).map (step, ·))
      = remnants reduce v path :=
    List.filterMap_congr fun entry hentry => by simp only [ih entry hentry]
  rw [reduceFrom_eq, remains_eq, hfolded]
  rfl

theorem fold_eq_remains (reduce : Folded → Visit → Reduction) (tree : Value) :
    tree.fold reduce = remains reduce tree [] none :=
  (fold_eq reduce tree).trans (reduceFrom_eq_remains tree [] none)

/-! ## Looking up children -/

theorem mem_remnants_iff (hnode : node.Ordered) {step : Segment} {value : Value} :
    (step, value) ∈ remnants reduce node path ↔
      ∃ child, node.child? step = some child ∧
        remains reduce child (path ++ [step]) (some node) = some value := by
  rw [remnants, List.mem_filterMap]
  constructor
  · rintro ⟨⟨step', child⟩, hchild, hleft⟩
    obtain ⟨value', hvalue, heq⟩ := Option.map_eq_some_iff.1 hleft
    obtain ⟨rfl, rfl⟩ := Prod.mk.inj heq
    exact ⟨child, (mem_children_iff hnode).1 hchild, hvalue⟩
  · rintro ⟨child, hchild, hvalue⟩
    exact ⟨(step, child), (mem_children_iff hnode).2 hchild,
      Option.map_eq_some_iff.2 ⟨value, hvalue, rfl⟩⟩

/-- Under a step stands what is left of the child that the step leads to. -/
theorem map_find?_remnants (hnode : node.Ordered) (path : Path) (step : Segment) :
    ((remnants reduce node path).find? (·.1 = step)).map (·.2)
      = (node.child? step).bind fun child =>
          remains reduce child (path ++ [step]) (some node) := by
  refine Option.ext fun value => ?_
  rw [Option.map_eq_some_iff, Option.bind_eq_some_iff, ← mem_remnants_iff hnode]
  constructor
  · rintro ⟨⟨step', value⟩, hfind, rfl⟩
    have hstep := List.find?_some hfind
    simp only [decide_eq_true_eq] at hstep
    subst hstep
    exact List.mem_of_find?_eq_some hfind
  · intro hmem
    have hsome : ((remnants reduce node path).find? (·.1 = step)).isSome :=
      List.find?_isSome.2 ⟨(step, value), hmem, decide_eq_true rfl⟩
    obtain ⟨⟨step', value'⟩, hfind⟩ := Option.isSome_iff_exists.1 hsome
    have hstep := List.find?_some hfind
    simp only [decide_eq_true_eq] at hstep
    subst hstep
    refine ⟨_, hfind, ?_⟩
    -- the step leads to one child only
    obtain ⟨child, hchild, hvalue⟩ := (mem_remnants_iff hnode).1 hmem
    obtain ⟨child', hchild', hvalue'⟩ :=
      (mem_remnants_iff hnode).1 (List.mem_of_find?_eq_some hfind)
    obtain rfl := Option.some.inj (hchild.symm.trans hchild')
    exact Option.some.inj (hvalue'.symm.trans hvalue)

theorem at?_eq_find? (folded : Folded) (i : Nat) :
    folded.at? i = (folded.find? (·.1 = .index i)).map (·.2) := by
  have htest : (fun entry : Segment × Value => entry.1.index? == some i)
      = fun entry => decide (entry.1 = .index i) := by
    funext ⟨step, value⟩
    cases step <;> simp [Segment.index?, beq_eq_decide]
  rw [Folded.at?, htest]

theorem get?_eq_find? (folded : Folded) (k : String) :
    folded.get? k = (folded.find? (·.1 = .key k)).map (·.2) := by
  have htest : (fun entry : Segment × Value => entry.1.key? == some k)
      = fun entry => decide (entry.1 = .key k) := by
    funext ⟨step, value⟩
    cases step <;> simp [Segment.key?, beq_eq_decide]
  rw [Folded.get?, htest]

theorem values_remnants (reduce : Folded → Visit → Reduction) (node : Value) (path : Path) :
    (remnants reduce node path).values
      = node.children.filterMap fun (step, child) =>
          remains reduce child (path ++ [step]) (some node) := by
  rw [Folded.values, remnants, List.map_filterMap]
  refine List.filterMap_congr fun entry _ => ?_
  rw [Option.map_map]
  exact Option.map_id'

/-! ## Calls -/

/-- Whether a computation that lists calls of a reducer has a result and makes some calls, one after
another. -/
def Writes {α : Type} (x : StateT (List Call) Id α) (a : α) (calls : List Call) : Prop :=
  ∀ before, x.run before = (a, before ++ calls)

namespace Writes

variable {α β : Type} {a : α} {b : β} {calls others : List Call}

theorem pure (a : α) : Writes (pure a) a [] := fun before => by
  rw [List.append_nil]
  rfl

theorem bind {x : StateT (List Call) Id α} {f : α → StateT (List Call) Id β}
    (hx : Writes x a calls) (hf : Writes (f a) b others) :
    Writes (x >>= f) b (calls ++ others) := by
  intro before
  have hrun : (x >>= f).run before = (f (x.run before).1).run (x.run before).2 := rfl
  rw [hrun, hx, hf, List.append_assoc]

theorem foldEach {fold : Segment → Value → StateT (List Call) Id (Option Value)}
    (left : Segment → Value → Option Value) (calls : Segment × Value → List Call)
    {entries : List (Segment × Value)}
    (h : ∀ entry ∈ entries, Writes (fold entry.1 entry.2) (left entry.1 entry.2) (calls entry)) :
    Writes (Value.foldEach fold entries)
      (entries.filterMap fun (step, child) => (left step child).map (step, ·))
      (entries.flatMap calls) := by
  induction entries with
  | nil => exact .pure []
  | cons entry rest ih =>
    obtain ⟨hentry, hrest⟩ := List.forall_mem_cons.1 h
    obtain ⟨step, child⟩ := entry
    have hcons : ((step, child) :: rest).filterMap
          (fun (step, child) => (left step child).map (step, ·))
        = (left step child).toList.map (step, ·)
          ++ rest.filterMap fun (step, child) => (left step child).map (step, ·) := by
      rw [List.filterMap_cons]
      cases hleft : left step child <;> simp only [hleft] <;> rfl
    rw [List.flatMap_cons, ← List.append_nil (rest.flatMap calls), hcons]
    exact hentry.bind ((ih hrest).bind (.pure _))

end Writes

/-- The call at a node. -/
def callAt (reduce : Folded → Visit → Reduction) (visit : Visit) : Call :=
  let folded := remnants reduce visit.node visit.path
  ⟨folded, visit, reduce folded visit⟩

/-- The walk calls the reducer at every node with what is left of the children. -/
theorem writes_foldFrom (reduce : Folded → Visit → Reduction) (v : Value) (path : Path)
    (parent : Option Value) :
    Writes (foldFrom (Reducer.noted fun folded visit => (pure (reduce folded visit) : Id Reduction))
        v path parent)
      (remains reduce v path parent) ((v.postorderFrom path parent).map (callAt reduce)) := by
  induction v using children_induction generalizing path parent with
  | h v ih =>
  have hchildren : Writes
      (foldEach (fun step child =>
        foldFrom (Reducer.noted fun folded visit => (pure (reduce folded visit) : Id Reduction))
          child (path ++ [step]) (some v)) v.children)
      (remnants reduce v path)
      (v.children.flatMap fun (step, child) =>
        (child.postorderFrom (path ++ [step]) (some v)).map (callAt reduce)) :=
    .foldEach (fun step child => remains reduce child (path ++ [step]) (some v)) _
      fun entry hentry => ih entry hentry (path ++ [entry.1]) (some v)
  have hcall : Writes
      (Reducer.noted (fun folded visit => (pure (reduce folded visit) : Id Reduction))
        (remnants reduce v path) ⟨v, path, parent⟩)
      (reduce (remnants reduce v path) ⟨v, path, parent⟩) [callAt reduce ⟨v, path, parent⟩] :=
    fun before => rfl
  rw [foldFrom_eq, postorderFrom_eq, List.map_append, List.map_flatMap, List.map_singleton,
    remains_eq]
  have happly := Writes.pure ((reduce (remnants reduce v path) ⟨v, path, parent⟩).apply v
    (remnants reduce v path))
  exact hchildren.bind (hcall.bind happly)

/-- The calls of a fold are those at the nodes of the tree. -/
theorem foldNoted_eq (reduce : Folded → Visit → Reduction) (tree : Value) :
    tree.foldNoted reduce = (remains reduce tree [] none, tree.postorder.map (callAt reduce)) :=
  writes_foldFrom reduce tree [] none []

/-! ## Main result -/

/-- What a fold leaves of a tree is what the recursion says, and so is what every call is told: it
is made at a node of the tree, and under each index and key of that node it finds what is left of
the child that stood there, nothing if nothing is left or there was no such child, however many
siblings are gone. The children of which something is left come in the order in which they stood. -/
theorem fold_compositional (htree : tree.Ordered) (reduce : Folded → Visit → Reduction) :
    (∀ v path parent, remains reduce v path parent =
      let folded := v.children.filterMap fun (step, child) =>
        (remains reduce child (path ++ [step]) (some v)).map (step, ·)
      (reduce folded ⟨v, path, parent⟩).apply v folded) ∧
    tree.fold reduce = remains reduce tree [] none ∧
    (tree.foldNoted reduce).1 = tree.fold reduce ∧
    (tree.foldNoted reduce).2.map Call.visit = tree.postorder ∧
    ∀ call ∈ (tree.foldNoted reduce).2,
      let node := call.visit.node
      let left (step : Segment) (child : Value) : Option Value :=
        remains reduce child (call.visit.path ++ [step]) (some node)
      call.reduction = reduce call.folded call.visit ∧
      (∀ i, call.folded.at? i = (node.child? (.index i)).bind (left (.index i))) ∧
      (∀ k, call.folded.get? k = (node.child? (.key k)).bind (left (.key k))) ∧
      call.folded = (node.children.filterMap fun (step, child) =>
        (left step child).map (step, ·)) ∧
      call.folded.values = (node.children.filterMap fun (step, child) => left step child) ∧
      call.folded.length = node.children.countP fun (step, child) => (left step child).isSome := by
  have hnoted := foldNoted_eq reduce tree
  refine ⟨fun v path parent => ?_, fold_eq_remains reduce tree, ?_, ?_, fun call hcall => ?_⟩
  · exact remains_eq v path parent
  · rw [hnoted, fold_eq_remains]
  · rw [hnoted, List.map_map]
    exact List.map_id' _
  · rw [hnoted] at hcall
    obtain ⟨⟨node, path, parent⟩, hvisit, rfl⟩ := List.mem_map.1 hcall
    have hnode : node.Ordered := htree.of_at? ((mem_postorder_iff htree).1 hvisit).1
    refine ⟨rfl, fun i => ?_, fun k => ?_, rfl, values_remnants reduce node path, ?_⟩
    · rw [at?_eq_find?]
      exact map_find?_remnants hnode path (.index i)
    · rw [get?_eq_find?]
      exact map_find?_remnants hnode path (.key k)
    · refine List.length_filterMap_eq_countP.trans (List.countP_congr fun entry _ => ?_)
      rw [Option.isSome_map]
      rfl

/-- The second item is found under its index although the first one is gone. -/
theorem fold_compositional_removing :
    let items : Value := .arr [.null, .int 2, .int 3]
    let tree : Value := .obj [("list", items)]
    let reduce : Folded → Visit → Reduction := fun _ visit =>
      match visit.node with
      | .null => .remove
      | _ => .keep
    let call : Call :=
      ⟨[(.index 1, .int 2), (.index 2, .int 3)], ⟨items, [.key "list"], some tree⟩, .keep⟩
    tree.Ordered ∧ call ∈ (tree.foldNoted reduce).2 ∧
      call.folded.at? 0 = none ∧ call.folded.at? 1 = some (.int 2) ∧
      call.folded.values = [.int 2, .int 3] := by
  intro items tree reduce call
  have htree : tree.Ordered :=
    ⟨List.pairwise_singleton _ _, ⟨trivial, trivial, trivial, trivial⟩, trivial⟩
  have hcall : call ∈ (tree.foldNoted reduce).2 := .tail _ (.tail _ (.tail _ (.head _)))
  obtain ⟨-, -, -, -, hcalls⟩ := fold_compositional htree reduce
  obtain ⟨-, hat, -, -, hvalues, -⟩ := hcalls call hcall
  exact ⟨htree, hcall, hat 0, hat 1, hvalues⟩

end Value

end Descent
