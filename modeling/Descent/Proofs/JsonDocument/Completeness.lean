import Descent.Proofs.JsonDocument.Runs

/-!
# What is derived is read

The rules of the grammar yield what derivations denote. The proof is by induction on the derivation;
the fuel that it takes is measured by the tokens left, eight for each of them, since no more rules
than that are entered between one bracket and a value behind it.
-/

namespace Descent.JsonDocument

open Consumer

variable {m : Meaning} {policy : ErrorPolicy} {ts seg : List (Token Kind)} {p q : Cursor}
  {fuel : Nat} {n : Nonterminal} {v : Value}

/-! ## Members and closing brackets -/

theorem yields_entry {key : Token Kind} {k : String} (hkey : ts[p]? = some key)
    (hkind : key.kind = .string) (hk : m.key? key = some k) (hcolon : KindAt ts (p + 1) .colon)
    (hv : Yields ((grammar m policy).run (fuel + 1) (.ref 0)) ts (p + 2) (.value v) q) :
    Yields ((grammar m policy).run (fuel + 2) (entry m)) ts p (.member k v) q := by
  have hstring : Yields ((grammar m policy).run (fuel + 1) (string m)) ts p (.key k) (p + 1) :=
    Grammar.yields_token hkey hkind (by rw [Meaning.toOption_eq_some_iff.1 hk]; rfl)
  exact .sequence (.inOrder_cons hstring (.inOrder_cons (yields_mark hcolon)
    (.inOrder_cons hv yields_inOrder_nil))) rfl

theorem balks_entry (h : ¬KindAt ts p .string) :
    Balks ((grammar m policy).run (fuel + 2) (entry m)) ts p :=
  .sequence (.inOrder_head (Grammar.balks_token_of_not h))

/-- In front of a closing bracket there is no member. -/
theorem balks_entry_of_rightCurly (h : KindAt ts p .rightCurly) :
    Balks ((grammar m policy).run (fuel + 2) (entry m)) ts p :=
  balks_entry fun hkey => nomatch hkey.unique h

/-- In front of a closing bracket there is no value. -/
theorem balks_value_of_rightSquare (h : KindAt ts p .rightSquare) :
    Balks ((grammar m policy).run (fuel + 6) (.ref 0)) ts p := by
  refine balks_value fun a ha hkind => ?_
  have hne : ∀ a ∈ alternatives m, a.1 ≠ .rightSquare := by simp [alternatives]
  exact hne a ha (hkind.unique h)

theorem filterMap_member? (members : List (String × Value)) :
    (members.map fun member => Part.member member.1 member.2).filterMap Part.member? = members := by
  rw [List.filterMap_map]
  exact List.filterMap_some

theorem filterMap_value? (items : List Value) :
    (items.map Part.value).filterMap Part.value? = items := by
  rw [List.filterMap_map]
  exact List.filterMap_some

/-! ## Objects and arrays -/

theorem yields_object {members : List (String × Value)} (hleft : KindAt ts p .leftCurly)
    (h : Contents (Advances ((grammar m policy).run (fuel + 2) (entry m)) ts) ts (p + 1)
      (members.map fun member => .member member.1 member.2) q)
    (hright : KindAt ts q .rightCurly) :
    Yields ((grammar m policy).run (fuel + 6) (object m)) ts p (.value (.ofMembers members))
      (q + 1) := by
  rw [← filterMap_member? members]
  exact .named "object" (yields_bracketed hleft h
    (fun hclose => (balks_entry_of_rightCurly hclose).fails) hright (by decide))

theorem yields_array {items : List Value} (hleft : KindAt ts p .leftSquare)
    (h : Contents (Advances ((grammar m policy).run (fuel + 6) (.ref 0)) ts) ts (p + 1)
      (items.map .value) q)
    (hright : KindAt ts q .rightSquare) :
    Yields ((grammar m policy).run (fuel + 10) array) ts p (.value (.arr items)) (q + 1) := by
  rw [← filterMap_value? items]
  exact .named "array" (yields_bracketed hleft h
    (fun hclose => (balks_value_of_rightSquare hclose).fails) hright (by decide))

/-! ## Whole derivations -/

/-- Fuel that the rule for a nonterminal needs beyond eight for each token left. -/
def Nonterminal.depth : Nonterminal → Nat
  | .document => 6
  | .value => 8
  | .object => 5
  | .array => 5
  | .member => 9
  | .members => 9
  | .items => 8

/-- Whether the rule for a nonterminal reads a denotation off the tokens between two cursors. -/
def Reads (m : Meaning) (policy : ErrorPolicy) (fuel : Nat) (ts : List (Token Kind)) :
    (n : Nonterminal) → Cursor → n.Denotation → Cursor → Prop
  | .document, p, v, q =>
    Yields ((grammar m policy).run fuel (.choice [object m, array])) ts p (.value v) q
  | .value, p, v, q => Yields ((grammar m policy).run fuel (.ref 0)) ts p (.value v) q
  | .object, p, v, q => Yields ((grammar m policy).run fuel (object m)) ts p (.value v) q
  | .array, p, v, q => Yields ((grammar m policy).run fuel array) ts p (.value v) q
  | .member, p, member, q =>
    Yields ((grammar m policy).run fuel (entry m)) ts p (.member member.1 member.2) q
  | .members, p, members, q =>
    Separated (Advances ((grammar m policy).run fuel (entry m)) ts) ts .comma p
      (members.map fun member => .member member.1 member.2) q
  | .items, p, items, q =>
    Separated (Advances ((grammar m policy).run fuel (.ref 0)) ts) ts .comma p
      (items.map .value) q

/-- An object begins with a curly bracket. -/
theorem kindAt_of_object (d : Derivation .object seg) (h : Stretch ts p seg q) :
    KindAt ts p .leftCurly := by
  cases d with
  | emptyObject left right hleft hright => exact ⟨left, h.1, hleft⟩
  | fullObject left right hleft hright d => exact ⟨left, h.1, hleft⟩

/-- An array begins with a square bracket. -/
theorem kindAt_of_array (d : Derivation .array seg) (h : Stretch ts p seg q) :
    KindAt ts p .leftSquare := by
  cases d with
  | emptyArray left right hleft hright => exact ⟨left, h.1, hleft⟩
  | fullArray left right hleft hright d => exact ⟨left, h.1, hleft⟩

theorem balks_object_of_leftSquare (h : KindAt ts p .leftSquare) :
    Balks ((grammar m policy).run (fuel + 3) (object m)) ts p :=
  .named "object" (balks_bracketed fun hcurly => nomatch hcurly.unique h)

/-- The rules read whatever derivations denote. -/
theorem reads_of_derivation (d : Derivation n seg) {x : n.Denotation} (hx : d.value? m = some x)
    (h : Stretch ts p seg q) (hfuel : 8 * (ts.length - p) + n.depth ≤ fuel) :
    Reads m policy fuel ts n p x q := by
  -- each case takes off the fuel that its own rules need and leaves the rest to its parts
  induction d generalizing p q fuel with simp only [Nonterminal.depth] at hfuel
  | documentObject d ih =>
    obtain ⟨fuel, rfl⟩ : ∃ f, fuel = f + 1 := ⟨fuel - 1, by omega⟩
    have hobject : Reads m policy fuel ts .object p x q := ih hx h (Nat.le_of_succ_le_succ hfuel)
    exact Yields.choice_head hobject
  | documentArray d ih =>
    obtain ⟨fuel, rfl⟩ : ∃ f, fuel = f + 4 := ⟨fuel - 4, by omega⟩
    have harray : Reads m policy (fuel + 3) ts .array p x q :=
      ih hx h (Nat.le_of_succ_le_succ hfuel)
    have hobject : Balks ((grammar m policy).run (fuel + 3) (object m)) ts p :=
      balks_object_of_leftSquare (kindAt_of_array d h)
    exact Yields.choice [_] [] (List.forall_mem_singleton.2 hobject) harray
  | scalar t ht =>
    obtain ⟨fuel, rfl⟩ : ∃ f, fuel = f + 6 := ⟨fuel - 6, by omega⟩
    obtain ⟨hget, rfl⟩ := h
    exact yields_scalar hget ht hx
  | object d ih =>
    obtain ⟨fuel, rfl⟩ : ∃ f, fuel = f + 6 := ⟨fuel - 6, by omega⟩
    have hobject : Reads m policy (fuel + 3) ts .object p x q :=
      ih hx h (by simp only [Nonterminal.depth]; omega)
    exact yields_value (a := (.leftCurly, object m)) (by simp [alternatives]) (kindAt_of_object d h)
      hobject
  | array d ih =>
    obtain ⟨fuel, rfl⟩ : ∃ f, fuel = f + 6 := ⟨fuel - 6, by omega⟩
    have harray : Reads m policy (fuel + 3) ts .array p x q :=
      ih hx h (by simp only [Nonterminal.depth]; omega)
    exact yields_value (a := (.leftSquare, array)) (by simp [alternatives]) (kindAt_of_array d h)
      harray
  | emptyObject left right hleft hright =>
    obtain rfl := Option.some.inj hx
    obtain ⟨hget, hget', rfl⟩ := h
    have hbracket : KindAt ts p .leftCurly := ⟨left, hget, hleft⟩
    have hlt := hbracket.lt
    obtain ⟨fuel, rfl⟩ : ∃ f, fuel = f + 6 := ⟨fuel - 6, by omega⟩
    exact yields_object hbracket (Or.inl ⟨rfl, rfl⟩) ⟨right, hget', hright⟩
  | fullObject left right hleft hright d ih =>
    obtain ⟨members, hmembers, rfl⟩ := Option.map_eq_some_iff.1 hx
    obtain ⟨hget, h⟩ := h
    obtain ⟨r, hseg, hget', rfl⟩ := stretch_append_iff.1 h
    have hbracket : KindAt ts p .leftCurly := ⟨left, hget, hleft⟩
    have hlt := hbracket.lt
    obtain ⟨fuel, rfl⟩ : ∃ f, fuel = f + 6 := ⟨fuel - 6, by omega⟩
    have hreads : Reads m policy (fuel + 2) ts .members (p + 1) members r :=
      ih hmembers hseg (by simp only [Nonterminal.depth]; grind)
    exact yields_object hbracket (Or.inr hreads) ⟨right, hget', hright⟩
  | emptyArray left right hleft hright =>
    obtain rfl := Option.some.inj hx
    obtain ⟨hget, hget', rfl⟩ := h
    have hbracket : KindAt ts p .leftSquare := ⟨left, hget, hleft⟩
    have hlt := hbracket.lt
    obtain ⟨fuel, rfl⟩ : ∃ f, fuel = f + 10 := ⟨fuel - 10, by omega⟩
    exact yields_array hbracket (Or.inl ⟨rfl, rfl⟩) ⟨right, hget', hright⟩
  | fullArray left right hleft hright d ih =>
    obtain ⟨items, hitems, rfl⟩ := Option.map_eq_some_iff.1 hx
    obtain ⟨hget, h⟩ := h
    obtain ⟨r, hseg, hget', rfl⟩ := stretch_append_iff.1 h
    have hbracket : KindAt ts p .leftSquare := ⟨left, hget, hleft⟩
    have hlt := hbracket.lt
    obtain ⟨fuel, rfl⟩ : ∃ f, fuel = f + 10 := ⟨fuel - 10, by omega⟩
    have hreads : Reads m policy (fuel + 6) ts .items (p + 1) items r :=
      ih hitems hseg (by simp only [Nonterminal.depth]; grind)
    exact yields_array hbracket (Or.inr hreads) ⟨right, hget', hright⟩
  | member key colon hkey hcolon d ih =>
    obtain ⟨k, hk, hx⟩ := Option.bind_eq_some_iff.1 hx
    obtain ⟨v, hv, rfl⟩ := Option.map_eq_some_iff.1 hx
    obtain ⟨fuel, rfl⟩ : ∃ f, fuel = f + 2 := ⟨fuel - 2, by omega⟩
    obtain ⟨hget, hget', hseg⟩ := h
    have hreads : Reads m policy (fuel + 1) ts .value (p + 2) v q :=
      ih hv hseg (by simp only [Nonterminal.depth]; grind)
    exact yields_entry hget hkey hk ⟨colon, hget', hcolon⟩ hreads
  | lastMember d ih =>
    obtain ⟨v, hv, rfl⟩ := Option.map_eq_some_iff.1 hx
    exact .last ⟨ih hv h hfuel, h.le⟩
  | moreMembers comma hcomma d more ih ihmore =>
    obtain ⟨v, hv, hx⟩ := Option.bind_eq_some_iff.1 hx
    obtain ⟨members, hmembers, rfl⟩ := Option.map_eq_some_iff.1 hx
    obtain ⟨r, hseg, hget, hrest⟩ := stretch_append_iff.1 h
    have hle := hseg.le
    have hreads : Reads m policy fuel ts .members (r + 1) members q :=
      ihmore hmembers hrest (by simp only [Nonterminal.depth]; grind)
    exact .more ⟨ih hv hseg hfuel, hle⟩ ⟨comma, hget, hcomma⟩ hreads
  | lastItem d ih =>
    obtain ⟨v, hv, rfl⟩ := Option.map_eq_some_iff.1 hx
    exact .last ⟨ih hv h hfuel, h.le⟩
  | moreItems comma hcomma d more ih ihmore =>
    obtain ⟨v, hv, hx⟩ := Option.bind_eq_some_iff.1 hx
    obtain ⟨items, hitems, rfl⟩ := Option.map_eq_some_iff.1 hx
    obtain ⟨r, hseg, hget, hrest⟩ := stretch_append_iff.1 h
    have hle := hseg.le
    have hreads : Reads m policy fuel ts .items (r + 1) items q :=
      ihmore hitems hrest (by simp only [Nonterminal.depth]; grind)
    exact .more ⟨ih hv hseg hfuel, hle⟩ ⟨comma, hget, hcomma⟩ hreads

end Descent.JsonDocument
