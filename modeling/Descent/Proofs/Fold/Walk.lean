import Mathlib.Data.List.Basic
import Descent.Fold
import Descent.Proofs.Json.Children

/-!
# The walk of a fold

A fold keeps one path and changes it on its way. It takes back every step that it takes, so the path
is the same before and behind a node (`Value.run_foldAt`), and a node can be looked at alone, with
the path that leads to it: `Value.foldFrom_eq` says that folding a node is folding its children in
order, asking the reducer, and doing what it decides.

Without effects that is an equation for values: `Value.reduceFrom_eq`.
-/

namespace Descent

namespace Value

variable {m : Type → Type} [Monad m] {reduce : Reducer m} {v : Value}

/-- Folds children one after another. What is left of a child stays under its step. -/
def foldEach (fold : Segment → Value → m (Option Value)) : List (Segment × Value) → m Folded
  | [] => pure []
  | (step, child) :: rest => do
    let folded ← fold step child
    let others ← foldEach fold rest
    pure (folded.toList.map (step, ·) ++ others)

/-- Folds a node from the path that leads to it. -/
def foldFrom (reduce : Reducer m) (node : Value) (path : Path) (parent : Option Value) :
    m (Option Value) :=
  (foldAt reduce node parent).run' path

/-- Folds children of a node with the path of the walk. -/
def foldChildren (reduce : Reducer m) (parent : Value) :
    List (Segment × Value) → StateT Path m Folded
  | [] => pure []
  | (step, child) :: rest => do
    let folded ← foldBelow step (foldAt reduce child (some parent))
    let others ← foldChildren reduce parent rest
    pure (folded ++ others)

theorem foldItems_eq (parent : Value) (i : Nat) (items : List Value) :
    foldItems reduce parent i items
      = foldChildren reduce parent ((items.zipIdx i).map fun (item, i) => (.index i, item)) := by
  induction items generalizing i with
  | nil => rfl
  | cons item rest ih =>
    simp only [foldItems, List.zipIdx_cons, List.map_cons, foldChildren, ih]

theorem foldMembers_eq (parent : Value) (members : List (String × Value)) :
    foldMembers reduce parent members
      = foldChildren reduce parent (members.map fun (k, value) => (.key k, value)) := by
  induction members with
  | nil => rfl
  | cons member rest ih => simp only [foldMembers, List.map_cons, foldChildren, ih]

variable [LawfulMonad m]

/-- A node is folded behind its children, of whatever kind it is. -/
theorem foldAt_eq (v : Value) (parent : Option Value) :
    foldAt reduce v parent = foldChildren reduce v v.children >>= reduceNode reduce v parent := by
  cases v with
  | arr items => simp only [foldAt, children, foldItems_eq]
  | obj members => simp only [foldAt, children, foldMembers_eq]
  | _ => simp only [foldAt, children, foldChildren, pure_bind]

/-- Children that leave the path as it was are each folded from the path to their parent and one
step more. -/
theorem run_foldChildren {parent : Value} {entries : List (Segment × Value)} {path : Path}
    (h : ∀ entry ∈ entries, ∀ path, (foldAt reduce entry.2 (some parent)).run path
      = (·, path) <$> foldFrom reduce entry.2 path (some parent)) :
    (foldChildren reduce parent entries).run path
      = (·, path) <$>
        foldEach (fun step child => foldFrom reduce child (path ++ [step]) (some parent))
          entries := by
  induction entries with
  | nil => simp [foldChildren, foldEach]
  | cons entry rest ih =>
    obtain ⟨hentry, hrest⟩ := List.forall_mem_cons.1 h
    simp [foldChildren, foldEach, foldBelow, hentry, ih hrest]

theorem run_foldAt_of_children {path : Path} {parent : Option Value}
    (h : ∀ entry ∈ v.children, ∀ path, (foldAt reduce entry.2 (some v)).run path
      = (·, path) <$> foldFrom reduce entry.2 path (some v)) :
    (foldAt reduce v parent).run path = (do
      let folded ← foldEach (fun step child => foldFrom reduce child (path ++ [step]) (some v))
        v.children
      let reduction ← reduce folded ⟨v, path, parent⟩
      pure (reduction.apply v folded, path)) := by
  rw [foldAt_eq, StateT.run_bind, run_foldChildren h]
  simp [reduceNode]

/-- The path of a walk is the same before and behind a node. -/
theorem run_foldAt (v : Value) (path : Path) (parent : Option Value) :
    (foldAt reduce v parent).run path = (·, path) <$> foldFrom reduce v path parent := by
  induction v using children_induction generalizing path parent with
  | h v ih =>
  have hchildren : ∀ entry ∈ v.children, ∀ path, (foldAt reduce entry.2 (some v)).run path
      = (·, path) <$> foldFrom reduce entry.2 path (some v) :=
    fun entry hentry path => ih entry hentry path (some v)
  rw [foldFrom, StateT.run'_eq, run_foldAt_of_children hchildren]
  simp

/-- A node is folded by folding its children and deciding what to make of them. -/
theorem foldFrom_eq (v : Value) (path : Path) (parent : Option Value) :
    foldFrom reduce v path parent = (do
      let folded ← foldEach (fun step child => foldFrom reduce child (path ++ [step]) (some v))
        v.children
      let reduction ← reduce folded ⟨v, path, parent⟩
      pure (reduction.apply v folded)) := by
  rw [foldFrom, StateT.run'_eq, run_foldAt_of_children fun entry _ path => run_foldAt _ path _]
  simp

/-! ## Without effects -/

/-- Folds a node from the path that leads to it, without effects. -/
def reduceFrom (reduce : Folded → Visit → Reduction) (node : Value) (path : Path)
    (parent : Option Value) : Option Value :=
  foldFrom (fun folded visit => (pure (reduce folded visit) : Id Reduction)) node path parent

theorem foldEach_id (fold : Segment → Value → Id (Option Value))
    (entries : List (Segment × Value)) :
    foldEach fold entries
      = entries.filterMap fun (step, child) => (fold step child).run.map (step, ·) := by
  induction entries with
  | nil => rfl
  | cons entry rest ih =>
    obtain ⟨step, child⟩ := entry
    have hcons : foldEach fold ((step, child) :: rest)
        = (fold step child).run.toList.map (step, ·) ++ (foldEach fold rest).run := rfl
    rw [hcons, ih, List.filterMap_cons]
    cases hfold : (fold step child).run <;> simp only [hfold] <;> rfl

theorem reduceFrom_eq (reduce : Folded → Visit → Reduction) (v : Value) (path : Path)
    (parent : Option Value) :
    reduceFrom reduce v path parent =
      let folded := v.children.filterMap fun (step, child) =>
        (reduceFrom reduce child (path ++ [step]) (some v)).map (step, ·)
      (reduce folded ⟨v, path, parent⟩).apply v folded := by
  rw [reduceFrom, foldFrom_eq, foldEach_id]
  rfl

/-- Where no child is removed, the folded children stand under all the steps. -/
theorem reduceFrom_eq_of_children {reduce : Folded → Visit → Reduction} {path : Path}
    (f : Segment → Value → Value) (parent : Option Value)
    (h : ∀ entry ∈ v.children,
      reduceFrom reduce entry.2 (path ++ [entry.1]) (some v) = some (f entry.1 entry.2)) :
    reduceFrom reduce v path parent =
      let folded := v.children.map fun (step, child) => (step, f step child)
      (reduce folded ⟨v, path, parent⟩).apply v folded := by
  have hfolded : (v.children.filterMap fun (step, child) =>
        (reduceFrom reduce child (path ++ [step]) (some v)).map (step, ·))
      = v.children.map fun (step, child) => (step, f step child) := by
    refine List.filterMap_eq_map_iff_forall_eq_some.2 fun entry hentry => ?_
    simp only [h entry hentry, Option.map_some]
  rw [reduceFrom_eq, hfolded]

theorem fold_eq (reduce : Folded → Visit → Reduction) (tree : Value) :
    tree.fold reduce = tree.reduceFrom reduce [] none := rfl

end Value

/-- A transformer folds what its parse gives. -/
theorem Transformer.transform?_of_result {κ : Type} {t : Transformer κ} {source : String}
    {tree : Value} (h : (t.parse source).map (·.result) = some (.ok tree)) :
    t.transform? source = some (.ok (tree.fold t.reduce)) := by
  obtain ⟨parsed, hparsed, hresult⟩ := Option.map_eq_some_iff.1 h
  rw [transform?, run, hparsed]
  simp [Parsed.map, hresult, Except.map]

end Descent
