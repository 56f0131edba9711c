import Descent.Proofs.Rule.Yields

/-!
# Stretches of tokens and lists

What a rule has taken is a stretch of the token list, from the cursor it was entered with to the one
it left. `Consumer.Separated` describes what a list takes: items with a delimiter between any two of
them, each item in whatever sense is of interest. A list takes as many items as there are, so it
yields such a stretch if no delimiter follows it.
-/

namespace Descent

variable {κ α : Type} {ts seg a b : List (Token κ)} {p q r : Cursor}

/-- Whether the token at a cursor is of some kind. -/
def KindAt (ts : List (Token κ)) (p : Cursor) (kind : κ) : Prop :=
  ∃ t, ts[p]? = some t ∧ t.kind = kind

theorem KindAt.lt {p : Nat} {kind : κ} (h : KindAt ts p kind) : p < ts.length := by
  obtain ⟨t, ht, -⟩ := h
  exact (List.getElem?_eq_some_iff.1 ht).1

theorem KindAt.unique {k l : κ} (hk : KindAt ts p k) (hl : KindAt ts p l) : k = l := by
  obtain ⟨t, ht, rfl⟩ := hk
  obtain ⟨u, hu, rfl⟩ := hl
  rw [Option.some.inj (ht.symm.trans hu)]

/-- Where no token of a kind stands, a rule for one balks. -/
theorem Grammar.balks_token_of_not {ν : Type} [DecidableEq κ] {g : Grammar κ ν} {fuel : Nat}
    {kind : κ} {build : Token κ → Except String ν} (h : ¬KindAt ts p kind) :
    Consumer.Balks (g.run (fuel + 1) (.token kind build)) ts p :=
  balks_token fun t _ ht hkind => absurd ⟨t, ht, hkind⟩ h

/-! ## Stretches -/

/-- Whether some tokens are those from one cursor to another. -/
def Stretch (ts : List (Token κ)) : Cursor → List (Token κ) → Cursor → Prop
  | p, [], q => q = p
  | p, t :: rest, q => ts[p]? = some t ∧ Stretch ts (p + 1) rest q

theorem stretch_append_iff :
    Stretch ts p (a ++ b) r ↔ ∃ q, Stretch ts p a q ∧ Stretch ts q b r := by
  induction a generalizing p with
  | nil => exact ⟨fun h => ⟨p, rfl, h⟩, fun ⟨_, hq, h⟩ => hq ▸ h⟩
  | cons t a ih =>
    simp only [List.cons_append, Stretch, ih]
    constructor
    · rintro ⟨ht, q, ha, hb⟩
      exact ⟨q, ⟨ht, ha⟩, hb⟩
    · rintro ⟨q, ⟨ht, ha⟩, hb⟩
      exact ⟨ht, q, ha, hb⟩

namespace Stretch

theorem eq_add (h : Stretch ts p seg q) : q = p + seg.length := by
  induction seg generalizing p with
  | nil => exact h
  | cons t seg ih => rw [ih h.2, List.length_cons, Nat.add_assoc, Nat.add_comm 1]

theorem le (h : Stretch ts p seg q) : p ≤ q := by
  rw [h.eq_add]
  exact Nat.le_add_right p seg.length

/-- A stretch and what follows it are all from its start on. -/
theorem append_drop (h : Stretch ts p seg q) : seg ++ ts.drop q = ts.drop p := by
  induction seg generalizing p with
  | nil => rw [h.symm, List.nil_append]
  | cons t seg ih =>
    obtain ⟨hp, ht⟩ := List.getElem?_eq_some_iff.1 h.1
    rw [List.cons_append, ih h.2, List.drop_eq_getElem_cons hp, ht]

/-- A list is a stretch of itself. -/
theorem all (ts : List (Token κ)) : Stretch ts 0 ts ts.length := by
  -- the induction is on what is left, so what has been passed must be named too
  suffices h : ∀ before after : List (Token κ),
      Stretch (before ++ after) before.length after (before ++ after).length from h [] ts
  intro before after
  induction after generalizing before with
  | nil => simp [Stretch]
  | cons t after ih =>
    have hrest := ih (before ++ [t])
    rw [List.append_assoc, List.singleton_append, List.length_append] at hrest
    exact ⟨by simp, hrest⟩

/-- The only stretch from the start of a list to its end is the list. -/
theorem eq_all (h : Stretch ts 0 seg q) (hq : ts.length ≤ q) : seg = ts := by
  have happend := h.append_drop
  rwa [List.drop_eq_nil_iff.2 hq, List.append_nil, List.drop_zero] at happend

end Stretch

/-! ## Lists -/

namespace Consumer

/-- Items from one cursor to another, with delimiters between them. -/
inductive Separated (item : Cursor → α → Cursor → Prop) (ts : List (Token κ)) (delimiter : κ) :
    Cursor → List α → Cursor → Prop
  | last {p q : Cursor} {v : α} : item p v q → Separated item ts delimiter p [v] q
  | more {p q r : Cursor} {v : α} {vs : List α} : item p v q → KindAt ts q delimiter →
    Separated item ts delimiter (q + 1) vs r → Separated item ts delimiter p (v :: vs) r

/-- The consumer yields a value and does not go back. -/
def Advances (c : Consumer κ α) (ts : List (Token κ)) (p : Cursor) (v : α) (q : Cursor) : Prop :=
  Yields c ts p v q ∧ p ≤ q

variable {item : Consumer κ α} {delimiter : κ} {vs : List α} {fuel count : Nat}

theorem Separated.imp {S T : Cursor → α → Cursor → Prop} (himp : ∀ p v q, S p v q → T p v q)
    (h : Separated S ts delimiter p vs q) : Separated T ts delimiter p vs q := by
  induction h with
  | last hv => exact .last (himp _ _ _ hv)
  | more hv hd _ ih => exact .more (himp _ _ _ hv) hd ih

/-- There are no more items than tokens if no item goes back. -/
theorem Separated.length_le {S : Cursor → α → Cursor → Prop}
    (h : Separated S ts delimiter p vs q) (hforward : ∀ p v q, S p v q → p ≤ q) :
    vs.length ≤ ts.length - p + 1 := by
  induction h with
  | last _ => exact Nat.le_add_left 1 _
  | more hv hd _ ih =>
    have hle := hforward _ _ _ hv
    have hlt := hd.lt
    rw [List.length_cons]
    grind

variable [DecidableEq κ]

theorem any_kind_iff :
    ((ts[p]?).any fun t => t.kind = delimiter) = true ↔ KindAt ts p delimiter := by
  simp only [Option.any_eq_true, decide_eq_true_eq, KindAt]

theorem yields_itemsFrom (h : Separated (Yields item ts) ts delimiter p vs q)
    (hstop : ¬KindAt ts q delimiter) (hfuel : vs.length ≤ fuel) (count : Nat) :
    ∃ log, itemsFrom item delimiter ts fuel count p = some ⟨.ok vs, q, log⟩ := by
  induction h generalizing fuel count with
  | last hv =>
    obtain ⟨fuel, rfl⟩ := Nat.exists_eq_add_of_le' hfuel
    obtain ⟨log, hv⟩ := hv
    rw [← any_kind_iff] at hstop
    exact ⟨log, by
      rw [List.length_singleton, itemsFrom, hv]
      simp only [Option.bind_some, if_neg hstop]⟩
  | more hv hd _ ih =>
    rw [List.length_cons] at hfuel
    obtain ⟨fuel, rfl⟩ := Nat.exists_eq_add_of_le' (Nat.le_of_add_left_le hfuel)
    obtain ⟨_, hv⟩ := hv
    obtain ⟨_, hrest⟩ := ih hstop (Nat.le_of_succ_le_succ hfuel) (count + 1)
    rw [← any_kind_iff] at hd
    exact ⟨_, by
      rw [itemsFrom, hv]
      simp only [Option.bind_some, if_pos hd, Cursor.advance, hrest]
      rfl⟩

/-- A list yields what is separated up to a cursor where no delimiter follows. -/
theorem Yields.list
    (h : Separated (Advances item ts) ts delimiter p vs q) (hstop : ¬KindAt ts q delimiter) :
    Yields (Consumer.list item delimiter) ts p vs q := by
  have hlength := h.length_le fun _ _ _ hv => hv.2
  obtain ⟨log, hitems⟩ := yields_itemsFrom (h.imp fun _ _ _ hv => hv.1) hstop
    (Nat.le_trans hlength (Nat.succ_le_succ (Nat.sub_le _ _))) 0
  exact ⟨log, by rw [Consumer.list, hitems]; rfl⟩

theorem Fails.list (h : Fails item ts p) : Fails (Consumer.list item delimiter) ts p := by
  obtain ⟨failure, q, log, h⟩ := h
  exact ⟨failure, p, log, by rw [Consumer.list, itemsFrom, h]; rfl⟩

variable {Good : Cursor → α → Cursor → Prop}

theorem itemsFrom_settles
    (h : ∀ p' ≥ p, Settles item ts p' (Good p')) (hforward : ∀ p v q, Good p v q → p < q)
    (hfuel : ts.length - p < fuel) (count : Nat) :
    (∃ vs q log, itemsFrom item delimiter ts fuel count p = some ⟨.ok vs, q, log⟩ ∧
        Separated Good ts delimiter p vs q) ∨
      ∃ failure q log,
        itemsFrom item delimiter ts fuel count p = some ⟨.error failure, q, log⟩ := by
  -- a round takes a token at least, so there is always fuel for the next
  induction fuel generalizing p count with
  | zero => exact absurd hfuel (Nat.not_lt_zero _)
  | succ fuel ih =>
    rw [itemsFrom]
    rcases h p (Nat.le_refl p) with ⟨v, q, ⟨log, hv⟩, hgood⟩ | ⟨failure, q, log, hf⟩
    · have hlt := hforward p v q hgood
      simp only [hv, Option.bind_some]
      by_cases hd : KindAt ts q delimiter
      · -- another round, behind the delimiter
        have hq := hd.lt
        have hmore := @ih (q + 1) (fun p' hp' => h p' (by grind)) (by grind) (count + 1)
        simp only [if_pos (any_kind_iff.2 hd), Cursor.advance]
        rcases hmore with ⟨vs, r, _, hrest, hsep⟩ | ⟨failure, r, _, hrest⟩
        · exact Or.inl ⟨v :: vs, r, _, by rw [hrest]; rfl, .more hgood hd hsep⟩
        · exact Or.inr ⟨failure, r, _, by rw [hrest]; rfl⟩
      · exact Or.inl ⟨[v], q, log, if_neg (mt any_kind_iff.1 hd), .last hgood⟩
    · simp only [hf, Option.bind_some]
      by_cases hcount : count = 0
      · exact Or.inr ⟨_, _, _, if_pos hcount⟩
      · exact Or.inr ⟨_, _, _, if_neg hcount⟩

/-- If an item settles at every cursor from some place on, and moves on, then a list settles there:
what it yields are good items. -/
theorem list_settles
    (h : ∀ p' ≥ p, Settles item ts p' (Good p')) (hforward : ∀ p v q, Good p v q → p < q) :
    Settles (Consumer.list item delimiter) ts p (Separated Good ts delimiter p) := by
  have hfuel := Nat.lt_succ_of_le (Nat.sub_le ts.length p)
  rcases itemsFrom_settles h hforward hfuel 0 with
    ⟨vs, q, log, hitems, hsep⟩ | ⟨failure, q, log, hitems⟩
  · exact Or.inl ⟨vs, q, ⟨log, by rw [Consumer.list, hitems]; rfl⟩, hsep⟩
  · exact Or.inr ⟨failure, p, log, by rw [Consumer.list, hitems]; rfl⟩

end Consumer

end Descent
