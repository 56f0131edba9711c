import Descent.Proofs.Fold.Walk

/-!
# The order of calls

A fold calls its reducer once at every node of the tree as it was, and the order of the calls
depends on nothing but the tree. `Value.postorder` lists the nodes in that order. Two things about
the list determine it.

* It has every node that a path of the tree leads to, with that path and with the node that the path
  without its last step leads to (`mem_postorder_iff`), and nothing else.
* Its paths stand in the order `Path.Earlier` (`pairwise_postorder`): what is below a node before
  the node, what is at or below a child before what is at or below a later child.

The reducer may have effects, so it can decide by all that it was told before. The calls that a
computation makes are related to a list of nodes by `Records`, which goes through the walk step by
step. `Value.calls_in_postorder` has all of it.
-/

namespace Descent

/-! ## The order of paths -/

/-- Whether a step leads to an earlier child than another. -/
def Segment.Before : Segment → Segment → Prop
  | .index i, .index j => i < j
  | .key k, .key l => k < l
  | _, _ => False

theorem Segment.Before.ne {step later : Segment} (h : step.Before later) : step ≠ later := by
  rintro rfl
  cases step with
  | index i => exact Nat.lt_irrefl i h
  | key k => exact String.lt_irrefl k h

/-- Whether a walk is done with what one path leads to before it is done with another. -/
inductive Path.Earlier : Path → Path → Prop
  /-- Nodes below a node come before it. -/
  | below (path : Path) (step : Segment) (rest : Path) : Earlier (path ++ step :: rest) path
  /-- A child, and what is below it, comes before later children and what is below them. -/
  | beside (path : Path) {step later : Segment} (rest other : Path) :
    step.Before later → Earlier (path ++ step :: rest) (path ++ later :: other)

theorem Path.Earlier.ne {path other : Path} (h : path.Earlier other) : path ≠ other := by
  cases h with
  | below step rest => simp
  | beside path rest other hbefore => simp [hbefore.ne]

namespace Value

variable {v tree : Value} {path : Path} {parent : Option Value} {visit : Visit}

/-- The children of a value whose keys ascend stand in the order of their steps. -/
theorem pairwise_children (hv : v.Ordered) : v.children.Pairwise fun a b => a.1.Before b.1 := by
  cases v with
  | arr items =>
    have hindices : (items.zipIdx.map Prod.snd).Pairwise (· < ·) := by
      rw [List.zipIdx_map_snd]
      exact List.pairwise_lt_range'
    have hitems : items.zipIdx.Pairwise fun a b => a.2 < b.2 := List.pairwise_map.1 hindices
    exact List.pairwise_map.2 hitems
  | obj members =>
    rw [Ordered] at hv
    exact List.pairwise_map.2 hv.1
  | _ => exact List.Pairwise.nil

/-! ## The nodes of a tree -/

mutual

/-- The nodes of a tree that stands at the end of a path, children before parents. -/
def postorderFrom : Value → Path → Option Value → List Visit
  | .arr items, path, parent =>
    postorderItems (.arr items) path 0 items ++ [⟨.arr items, path, parent⟩]
  | .obj members, path, parent =>
    postorderMembers (.obj members) path members ++ [⟨.obj members, path, parent⟩]
  | leaf, path, parent => [⟨leaf, path, parent⟩]

/-- The nodes of the items of an array from an index on. -/
def postorderItems (parent : Value) (path : Path) : Nat → List Value → List Visit
  | _, [] => []
  | i, item :: rest =>
    postorderFrom item (path ++ [.index i]) (some parent) ++ postorderItems parent path (i + 1) rest

/-- The nodes of the members of an object. -/
def postorderMembers (parent : Value) (path : Path) : List (String × Value) → List Visit
  | [] => []
  | (k, value) :: rest =>
    postorderFrom value (path ++ [.key k]) (some parent) ++ postorderMembers parent path rest

end

/-- The nodes of a tree, children before parents, each with its path and its parent. -/
def postorder (tree : Value) : List Visit := tree.postorderFrom [] none

theorem postorderItems_eq (parent : Value) (path : Path) (i : Nat) (items : List Value) :
    postorderItems parent path i items
      = ((items.zipIdx i).map fun (item, i) => (Segment.index i, item)).flatMap
          fun (step, child) => child.postorderFrom (path ++ [step]) (some parent) := by
  induction items generalizing i with
  | nil => rfl
  | cons item rest ih =>
    rw [postorderItems, ih, List.zipIdx_cons, List.map_cons, List.flatMap_cons]

theorem postorderMembers_eq (parent : Value) (path : Path) (members : List (String × Value)) :
    postorderMembers parent path members
      = (members.map fun (k, value) => (Segment.key k, value)).flatMap
          fun (step, child) => child.postorderFrom (path ++ [step]) (some parent) := by
  induction members with
  | nil => rfl
  | cons member rest ih => rw [postorderMembers, ih, List.map_cons, List.flatMap_cons]

/-- The nodes of a tree are those of its children, one child after another, and then itself. -/
theorem postorderFrom_eq (v : Value) (path : Path) (parent : Option Value) :
    v.postorderFrom path parent
      = (v.children.flatMap fun (step, child) => child.postorderFrom (path ++ [step]) (some v))
          ++ [⟨v, path, parent⟩] := by
  cases v with
  | arr items => rw [postorderFrom, postorderItems_eq, children]
  | obj members => rw [postorderFrom, postorderMembers_eq, children]
  | _ => rfl

/-- The parent of a node below a child, seen from the child and from the value. -/
theorem at?_dropLast_cons {step : Segment} {child : Value} (h : v.child? step = some child)
    (rest : Path) :
    v.at? (step :: rest).dropLast = if rest = [] then some v else child.at? rest.dropLast := by
  cases rest with
  | nil => rfl
  | cons next rest =>
    rw [List.dropLast_cons_cons, at?_cons, h, Option.bind_some, if_neg (List.cons_ne_nil _ _)]

/-- The nodes of a tree are what the paths from it lead to. -/
theorem mem_postorderFrom_iff (hv : v.Ordered) :
    visit ∈ v.postorderFrom path parent ↔
      ∃ rest, visit.path = path ++ rest ∧ v.at? rest = some visit.node ∧
        visit.parent = if rest = [] then parent else v.at? rest.dropLast := by
  induction v using children_induction generalizing path parent with
  | h v ih =>
  rw [postorderFrom_eq, List.mem_append, List.mem_flatMap, List.mem_singleton]
  constructor
  · rintro (⟨⟨step, child⟩, hchild, hvisit⟩ | rfl)
    -- at or below a child
    · obtain ⟨rest, hpath, hnode, hparent⟩ := (ih _ hchild (hv.of_mem_children hchild)).1 hvisit
      have hstep : v.child? step = some child := (mem_children_iff hv).1 hchild
      refine ⟨step :: rest, ?_, ?_, ?_⟩
      · rw [hpath, List.append_assoc, List.singleton_append]
      · rw [at?_cons, hstep, Option.bind_some, hnode]
      · rw [hparent, if_neg (List.cons_ne_nil _ _), at?_dropLast_cons hstep]
    -- the node itself
    · exact ⟨[], (List.append_nil path).symm, rfl, rfl⟩
  · rintro ⟨rest, hpath, hnode, hparent⟩
    cases rest with
    | nil =>
      obtain ⟨node, path', parent'⟩ := visit
      obtain rfl : path' = path := hpath.trans (List.append_nil path)
      obtain rfl : v = node := Option.some.inj hnode
      obtain rfl : parent' = parent := hparent
      exact Or.inr rfl
    | cons step rest =>
      obtain ⟨child, hstep, hnode⟩ := Option.bind_eq_some_iff.1 hnode
      have hchild : (step, child) ∈ v.children := (mem_children_iff hv).2 hstep
      rw [if_neg (List.cons_ne_nil _ _), at?_dropLast_cons hstep] at hparent
      rw [List.append_cons] at hpath
      refine Or.inl ⟨(step, child), hchild, ?_⟩
      exact (ih _ hchild (hv.of_mem_children hchild)).2 ⟨rest, hpath, hnode, hparent⟩

theorem pairwise_postorderFrom (hv : v.Ordered) :
    (v.postorderFrom path parent).Pairwise fun a b => a.path.Earlier b.path := by
  induction v using children_induction generalizing path parent with
  | h v ih =>
  have hbelow {entry : Segment × Value} (hentry : entry ∈ v.children) {visit : Visit}
      (hvisit : visit ∈ entry.2.postorderFrom (path ++ [entry.1]) (some v)) :
      ∃ rest, visit.path = path ++ entry.1 :: rest := by
    obtain ⟨rest, hpath, -⟩ := (mem_postorderFrom_iff (hv.of_mem_children hentry)).1 hvisit
    exact ⟨rest, by rw [hpath, List.append_assoc, List.singleton_append]⟩
  rw [postorderFrom_eq]
  refine List.pairwise_append.2 ⟨List.pairwise_flatMap.2 ⟨?_, ?_⟩, List.pairwise_singleton _ _, ?_⟩
  · exact fun entry hentry => ih entry hentry (hv.of_mem_children hentry)
  · -- nodes at or below different children
    refine (pairwise_children hv).imp_of_mem fun {a b} ha hb hbefore x hx y hy => ?_
    obtain ⟨rest, hpath⟩ := hbelow ha hx
    obtain ⟨other, hother⟩ := hbelow hb hy
    rw [hpath, hother]
    exact .beside path rest other hbefore
  · -- nodes at or below a child, and the node itself
    intro x hx y hy
    obtain ⟨entry, hentry, hx⟩ := List.mem_flatMap.1 hx
    obtain ⟨rest, hpath⟩ := hbelow hentry hx
    obtain rfl := List.mem_singleton.1 hy
    rw [hpath]
    exact .below path entry.1 rest

/-! ## Calls -/

/-- Whether a computation that lists calls of a reducer makes those at some nodes, one after
another, and is another computation apart from that. -/
def Records {m : Type → Type} [Monad m] {α : Type} (x : StateT (List Call) m α) (y : m α)
    (visits : List Visit) : Prop :=
  ∀ calls, (fun (a, calls') => (a, calls'.map Call.visit)) <$> x.run calls
    = (fun a => (a, calls.map Call.visit ++ visits)) <$> y

namespace Records

variable {m : Type → Type} [Monad m] [LawfulMonad m] {α β : Type} {visits others : List Visit}

theorem pure (a : α) : Records (pure a : StateT (List Call) m α) (Pure.pure a) [] := by
  intro calls
  simp

theorem bind {x : StateT (List Call) m α} {y : m α} {f : α → StateT (List Call) m β} {g : α → m β}
    (hx : Records x y visits) (hf : ∀ a, Records (f a) (g a) others) :
    Records (x >>= f) (y >>= g) (visits ++ others) := by
  intro calls
  calc (fun (b, calls') => (b, calls'.map Call.visit)) <$> (x >>= f).run calls
    _ = x.run calls >>= fun (a, calls') =>
          (fun (b, calls'') => (b, calls''.map Call.visit)) <$> (f a).run calls' := by simp
    _ = x.run calls >>= fun (a, calls') =>
          (fun b => (b, calls'.map Call.visit ++ others)) <$> g a :=
        bind_congr fun (a, calls') => hf a calls'
    _ = ((fun (a, calls') => (a, calls'.map Call.visit)) <$> x.run calls) >>= fun (a, visits') =>
          (fun b => (b, visits' ++ others)) <$> g a := by rw [bind_map_left]
    _ = ((fun a => (a, calls.map Call.visit ++ visits)) <$> y) >>= fun (a, visits') =>
          (fun b => (b, visits' ++ others)) <$> g a := by rw [hx calls]
    _ = (fun b => (b, calls.map Call.visit ++ (visits ++ others))) <$> (y >>= g) := by
        simp [List.append_assoc]

/-- A noted reducer makes one call, and decides as it does without notes. -/
theorem noted (reduce : Reducer m) (folded : Folded) (visit : Visit) :
    Records (reduce.noted folded visit) (reduce folded visit) [visit] := by
  intro calls
  simp [Reducer.noted]

/-- Children are visited one after another. -/
theorem foldEach {fold : Segment → Value → StateT (List Call) m (Option Value)}
    {fold' : Segment → Value → m (Option Value)} {visits : Segment × Value → List Visit}
    {entries : List (Segment × Value)}
    (h : ∀ entry ∈ entries, Records (fold entry.1 entry.2) (fold' entry.1 entry.2) (visits entry)) :
    Records (Value.foldEach fold entries) (Value.foldEach fold' entries)
      (entries.flatMap visits) := by
  induction entries with
  | nil => exact .pure []
  | cons entry rest ih =>
    obtain ⟨hentry, hrest⟩ := List.forall_mem_cons.1 h
    rw [List.flatMap_cons, ← List.append_nil (rest.flatMap visits)]
    exact hentry.bind fun folded => (ih hrest).bind fun others => .pure _

/-- The calls of a walk are those at the nodes of the tree. -/
theorem foldFrom (reduce : Reducer m) (v : Value) (path : Path) (parent : Option Value) :
    Records (Value.foldFrom reduce.noted v path parent) (Value.foldFrom reduce v path parent)
      (v.postorderFrom path parent) := by
  induction v using children_induction generalizing path parent with
  | h v ih =>
  rw [foldFrom_eq, foldFrom_eq, postorderFrom_eq]
  have hchildren : Records
      (Value.foldEach
        (fun step child => Value.foldFrom reduce.noted child (path ++ [step]) (some v)) v.children)
      (Value.foldEach (fun step child => Value.foldFrom reduce child (path ++ [step]) (some v))
        v.children)
      (v.children.flatMap fun (step, child) => child.postorderFrom (path ++ [step]) (some v)) :=
    foldEach fun entry hentry => ih entry hentry (path ++ [entry.1]) (some v)
  exact hchildren.bind fun folded => (noted reduce folded _).bind fun reduction => .pure _

end Records

/-! ## Main result -/

theorem mem_postorder_iff (htree : tree.Ordered) :
    visit ∈ tree.postorder ↔
      tree.at? visit.path = some visit.node ∧
        visit.parent = if visit.path = [] then none else tree.at? visit.path.dropLast := by
  rw [postorder, mem_postorderFrom_iff htree]
  constructor
  · rintro ⟨rest, hpath, hnode, hparent⟩
    obtain rfl : visit.path = rest := hpath
    exact ⟨hnode, hparent⟩
  · exact fun ⟨hnode, hparent⟩ => ⟨visit.path, rfl, hnode, hparent⟩

theorem pairwise_postorder (htree : tree.Ordered) :
    (tree.postorder.map Visit.path).Pairwise Path.Earlier :=
  List.pairwise_map.2 (pairwise_postorderFrom htree)

/-- Only the root has no parent. -/
theorem parent_eq_none_iff (htree : tree.Ordered) (hvisit : visit ∈ tree.postorder) :
    visit.parent = none ↔ visit.path = [] := by
  obtain ⟨hnode, hparent⟩ := (mem_postorder_iff htree).1 hvisit
  by_cases hpath : visit.path = []
  · rw [hparent, if_pos hpath]
    exact iff_of_true rfl hpath
  · -- the path without its last step leads somewhere, because the path does
    rw [← List.dropLast_concat_getLast hpath, at?_append] at hnode
    obtain ⟨above, habove, -⟩ := Option.bind_eq_some_iff.1 hnode
    rw [hparent, if_neg hpath, habove]
    exact iff_of_false nofun hpath

variable {m : Type → Type} [Monad m] [LawfulMonad m]

/-- A reducer of whatever effects and decisions is called once at every node of the tree, children
before parents and earlier children first. Each call has the node that the path of the call leads to
in the tree as it was, and the node one step above it; only at the root there is none. -/
theorem calls_in_postorder (htree : tree.Ordered) (reduce : Reducer m) :
    (fun (result, calls) => (result, calls.map Call.visit)) <$> tree.foldNotedM reduce
        = (fun result => (result, tree.postorder)) <$> tree.foldM reduce ∧
      (tree.postorder.map Visit.path).Pairwise Path.Earlier ∧
      (tree.postorder.map Visit.path).Nodup ∧
      (∀ visit, visit ∈ tree.postorder ↔
        tree.at? visit.path = some visit.node ∧
          visit.parent = if visit.path = [] then none else tree.at? visit.path.dropLast) ∧
      ∀ visit ∈ tree.postorder, visit.parent = none ↔ visit.path = [] := by
  have hcalls := Records.foldFrom reduce tree [] none []
  have hpairwise := pairwise_postorder htree
  exact ⟨hcalls, hpairwise, hpairwise.imp Path.Earlier.ne, fun _ => mem_postorder_iff htree,
    fun _ => parent_eq_none_iff htree⟩

/-- A reducer that counts its calls and removes every second node. -/
theorem calls_in_postorder_counting :
    let items : Value := .arr [.int 1, .null]
    let tree : Value := .obj [("a", items), ("b", .bool true)]
    let reduce : Reducer (StateM Nat) := fun _ _ => do
      let count ← getModify (· + 1)
      pure (if count % 2 = 0 then .remove else .keep)
    tree.Ordered ∧
      ((tree.foldNotedM reduce).run 0).1.2.map Call.visit
        = [⟨.int 1, [.key "a", .index 0], some items⟩, ⟨.null, [.key "a", .index 1], some items⟩,
          ⟨items, [.key "a"], some tree⟩, ⟨.bool true, [.key "b"], some tree⟩,
          ⟨tree, [], none⟩] := by
  intro items tree reduce
  have hkeys : KeysAscend [("a", items), ("b", .bool true)] :=
    List.pairwise_pair.2 (by decide)
  have htree : tree.Ordered := ⟨hkeys, ⟨trivial, trivial, trivial⟩, trivial, trivial⟩
  have hcalls := (calls_in_postorder htree reduce).1
  exact ⟨htree, congrArg (fun run => (run.run 0).1.2) hcalls⟩

end Value

end Descent
