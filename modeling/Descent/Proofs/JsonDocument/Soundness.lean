import Descent.Proofs.JsonDocument.Runs
import Descent.Proofs.Rule.Cases

/-!
# What is read is derived

Whatever the rules of the grammar yield is denoted by a derivation of the tokens that they took, and
they end everywhere without a cut. The proof is by induction on the tokens left: a bracket takes one
before the rule for values is entered again.
-/

namespace Descent.JsonDocument

open Consumer

variable {m : Meaning} {policy : ErrorPolicy} {ts seg : List (Token Kind)} {p q : Cursor}
  {fuel : Nat} {n : Nonterminal} {kind : Kind} {v : Value} {parts : List Part}

/-! ## Denotations -/

/-- Whether a derivation of the tokens between two cursors denotes something. -/
def Denotes (m : Meaning) (ts : List (Token Kind)) (n : Nonterminal) (p : Cursor)
    (x : n.Denotation) (q : Cursor) : Prop :=
  ∃ seg, Stretch ts p seg q ∧ ∃ d : Derivation n seg, d.value? m = some x

/-- Whether a part is the value that a derivation of the tokens between two cursors denotes. -/
def DenotesValue (m : Meaning) (ts : List (Token Kind)) (p : Cursor) (part : Part)
    (q : Cursor) : Prop :=
  ∃ v, part = .value v ∧ Denotes m ts .value p v q

/-- Whether a part is the member that a derivation of the tokens between two cursors denotes. -/
def DenotesMember (m : Meaning) (ts : List (Token Kind)) (p : Cursor) (part : Part)
    (q : Cursor) : Prop :=
  ∃ k v, part = .member k v ∧ Denotes m ts .member p (k, v) q

theorem Denotes.lt {x : n.Denotation} (h : Denotes m ts n p x q) : p < q := by
  obtain ⟨seg, hseg, d, -⟩ := h
  rw [hseg.eq_add]
  exact Nat.lt_add_of_pos_right (List.length_pos_iff.2 d.ne_nil)

theorem denotes_members (h : Separated (DenotesMember m ts) ts .comma p parts q) :
    Denotes m ts .members p (parts.filterMap Part.member?) q := by
  induction h with
  | last hv =>
    obtain ⟨k, v, rfl, seg, hseg, d, hd⟩ := hv
    exact ⟨seg, hseg, .lastMember d, by simp [hd, Part.member?]⟩
  | more hv hcomma _ ih =>
    obtain ⟨k, v, rfl, seg, hseg, d, hd⟩ := hv
    obtain ⟨comma, hget, hkind⟩ := hcomma
    obtain ⟨rest, hrest, more, hmore⟩ := ih
    exact ⟨seg ++ comma :: rest, stretch_append_iff.2 ⟨_, hseg, hget, hrest⟩,
      .moreMembers comma hkind d more, by simp [hd, hmore, Part.member?]⟩

theorem denotes_items (h : Separated (DenotesValue m ts) ts .comma p parts q) :
    Denotes m ts .items p (parts.filterMap Part.value?) q := by
  induction h with
  | last hv =>
    obtain ⟨v, rfl, seg, hseg, d, hd⟩ := hv
    exact ⟨seg, hseg, .lastItem d, by simp [hd, Part.value?]⟩
  | more hv hcomma _ ih =>
    obtain ⟨v, rfl, seg, hseg, d, hd⟩ := hv
    obtain ⟨comma, hget, hkind⟩ := hcomma
    obtain ⟨rest, hrest, more, hmore⟩ := ih
    exact ⟨seg ++ comma :: rest, stretch_append_iff.2 ⟨_, hseg, hget, hrest⟩,
      .moreItems comma hkind d more, by simp [hd, hmore, Part.value?]⟩

/-! ## Single tokens and members -/

theorem denotes_scalar {t : Token Kind} (ht : ts[p]? = some t) (h : t.kind ∈ scalars)
    (hv : m.scalar? t = some v) : DenotesValue m ts p (.value v) (p + 1) :=
  ⟨v, rfl, [t], ⟨ht, rfl⟩, .scalar t h, hv⟩

theorem string_decides : Decides ((grammar m policy).run (fuel + 1) (string m)) ts p
    fun part q => q = p + 1 ∧ ∃ t s, part = .key s ∧ ts[p]? = some t ∧ t.kind = .string ∧
      m.key? t = some s := by
  refine Grammar.token_decides.imp ?_
  rintro part q ⟨rfl, t, ht, hkind, hbuild⟩
  obtain ⟨s, hs, rfl⟩ := map_eq_ok_iff.1 hbuild
  exact ⟨rfl, t, s, rfl, ht, hkind, Meaning.toOption_eq_some_iff.2 hs⟩

theorem word_decides (h : kind ∈ scalars) (hv : ∀ t, t.kind = kind → m.scalar? t = some v) :
    Decides ((grammar m policy).run (fuel + 2) (word kind v)) ts p (DenotesValue m ts p) := by
  refine Grammar.token_decides.imp ?_
  rintro _ q ⟨rfl, t, ht, hkind, hbuild⟩
  obtain rfl := Except.ok.inj hbuild
  exact denotes_scalar ht (hkind ▸ h) (hv t hkind)

/-- What an alternative for a single token yields is denoted. -/
theorem scalar_decides {a : Alternative} (ha : a ∈ alternatives m) (h : a.1 ∈ scalars) :
    Decides ((grammar m policy).run (fuel + 2) a.2) ts p (DenotesValue m ts p) := by
  simp only [alternatives, List.mem_cons, List.not_mem_nil, or_false] at ha
  rcases ha with rfl | rfl | rfl | rfl | rfl | rfl | rfl
  · refine .map _ (string_decides.imp ?_)
    rintro _ q ⟨rfl, t, s, rfl, ht, hkind, hs⟩
    exact denotes_scalar ht (hkind ▸ h) (by simp [Meaning.scalar?, hkind, hs])
  · refine Grammar.token_decides.imp ?_
    rintro _ q ⟨rfl, t, ht, hkind, hbuild⟩
    obtain ⟨v, hv, rfl⟩ := map_eq_ok_iff.1 hbuild
    exact denotes_scalar ht (hkind ▸ h) (by simp [Meaning.scalar?, hkind, hv, Except.toOption])
  · exact word_decides h fun t hkind => by simp only [Meaning.scalar?, hkind]
  · exact word_decides h fun t hkind => by simp only [Meaning.scalar?, hkind]
  · exact word_decides h fun t hkind => by simp only [Meaning.scalar?, hkind]
  · exact absurd h (show Kind.leftCurly ∉ scalars by decide)
  · exact absurd h (show Kind.leftSquare ∉ scalars by decide)

theorem entry_decides
    (hvalue : Decides ((grammar m policy).run (fuel + 1) (.ref 0)) ts (p + 2)
      (DenotesValue m ts (p + 2))) :
    Decides ((grammar m policy).run (fuel + 2) (entry m)) ts p (DenotesMember m ts p) := by
  refine .sequence (.inOrder_cons string_decides ?_)
  rintro _ _ ⟨rfl, key, k, rfl, hkey, hkind, hk⟩
  refine .inOrder_cons mark_decides ?_
  rintro _ _ ⟨rfl, rfl, colon, hcolon, hckind⟩
  refine .inOrder_cons hvalue ?_
  rintro _ q ⟨v, rfl, seg, hseg, d, hd⟩
  exact .inOrder_nil ⟨_, rfl, k, v, rfl, key :: colon :: seg, ⟨hkey, hcolon, hseg⟩,
    .member key colon hkind hckind d, by simp [hk, hd]⟩

/-! ## Brackets and values -/

theorem object_decides
    (hvalue : ∀ p' > p, p < ts.length →
      Decides ((grammar m policy).run (fuel + 1) (.ref 0)) ts p' (DenotesValue m ts p')) :
    Decides ((grammar m policy).run (fuel + 6) (object m)) ts p fun part q =>
      ∃ v, part = .value v ∧ Denotes m ts .object p v q := by
  have hitem : KindAt ts p .leftCurly → ∀ p' ≥ p + 1,
      Settles ((grammar m policy).run (fuel + 2) (entry m)) ts p' (DenotesMember m ts p') :=
    fun hleft p' hp' => (entry_decides (hvalue (p' + 2) (Nat.lt_add_right 2 hp') hleft.lt)).settles
  have hforward : ∀ p part q, DenotesMember m ts p part q → p < q := by
    rintro p _ q ⟨k, v, -, h⟩
    exact h.lt
  refine .named "object" ((bracketed_decides hitem hforward).imp ?_)
  rintro _ _ ⟨parts, q, rfl, ⟨l, hl, hleft⟩, hcontents, ⟨r, hr, hright⟩, rfl⟩
  -- either the brackets follow each other, or all between them is members
  rcases hcontents with ⟨rfl, rfl⟩ | hseparated
  · exact ⟨_, rfl, [l, r], ⟨hl, hr, rfl⟩, .emptyObject l r hleft hright, rfl⟩
  · obtain ⟨seg, hseg, d, hd⟩ := denotes_members hseparated
    exact ⟨_, rfl, l :: (seg ++ [r]), ⟨hl, stretch_append_iff.2 ⟨q, hseg, hr, rfl⟩⟩,
      .fullObject l r hleft hright d, by rw [Derivation.value?_fullObject, hd]; rfl⟩

theorem array_decides
    (hvalue : ∀ p' > p, p < ts.length →
      Decides ((grammar m policy).run fuel (.ref 0)) ts p' (DenotesValue m ts p')) :
    Decides ((grammar m policy).run (fuel + 4) array) ts p fun part q =>
      ∃ v, part = .value v ∧ Denotes m ts .array p v q := by
  have hitem : KindAt ts p .leftSquare → ∀ p' ≥ p + 1,
      Settles ((grammar m policy).run fuel (.ref 0)) ts p' (DenotesValue m ts p') :=
    fun hleft p' hp' => (hvalue p' hp' hleft.lt).settles
  have hforward : ∀ p part q, DenotesValue m ts p part q → p < q := by
    rintro p _ q ⟨v, -, h⟩
    exact h.lt
  refine .named "array" ((bracketed_decides hitem hforward).imp ?_)
  rintro _ _ ⟨parts, q, rfl, ⟨l, hl, hleft⟩, hcontents, ⟨r, hr, hright⟩, rfl⟩
  rcases hcontents with ⟨rfl, rfl⟩ | hseparated
  · exact ⟨_, rfl, [l, r], ⟨hl, hr, rfl⟩, .emptyArray l r hleft hright, rfl⟩
  · obtain ⟨seg, hseg, d, hd⟩ := denotes_items hseparated
    exact ⟨_, rfl, l :: (seg ++ [r]), ⟨hl, stretch_append_iff.2 ⟨q, hseg, hr, rfl⟩⟩,
      .fullArray l r hleft hright d, by rw [Derivation.value?_fullArray, hd]; rfl⟩

theorem alternatives_cases {a : Alternative} (ha : a ∈ alternatives m) :
    a.1 ∈ scalars ∨ a = (.leftCurly, object m) ∨ a = (.leftSquare, array) := by
  simp only [alternatives, List.mem_cons, List.not_mem_nil, or_false] at ha
  rcases ha with rfl | rfl | rfl | rfl | rfl | rfl | rfl <;> simp [scalars]

/-- The rule for values ends everywhere, without a cut, and what it yields is denoted by a
derivation of the tokens it took. -/
theorem value_decides (hfuel : 8 * (ts.length - p) + 9 ≤ fuel) :
    Decides ((grammar m policy).run fuel (.ref 0)) ts p (DenotesValue m ts p) := by
  induction hleft : ts.length - p using Nat.strongRecOn generalizing p fuel with
  | ind left ih =>
    obtain ⟨fuel, rfl⟩ : ∃ f, fuel = f + 9 := ⟨fuel - 9, by omega⟩
    have hinner : ∀ f ≥ fuel + 1, ∀ p' > p, p < ts.length →
        Decides ((grammar m policy).run f (.ref 0)) ts p' (DenotesValue m ts p') :=
      fun f hf p' hp' hlt => ih (ts.length - p') (by grind) (by grind) rfl
    -- the brackets take a token each time, so the hypothesis covers every value inside them
    rw [run_value]
    refine .named "value" (.choice fun c hc => ?_)
    obtain ⟨a, ha, rfl⟩ := List.mem_map.1 hc
    rcases alternatives_cases ha with hscalar | rfl | rfl
    · exact scalar_decides ha hscalar
    · refine (object_decides (hinner (fuel + 1) (Nat.le_refl _))).imp ?_
      rintro _ q ⟨v, rfl, seg, hseg, d, hd⟩
      exact ⟨v, rfl, seg, hseg, .object d, hd⟩
    · refine (array_decides (hinner (fuel + 2) (Nat.le_succ _))).imp ?_
      rintro _ q ⟨v, rfl, seg, hseg, d, hd⟩
      exact ⟨v, rfl, seg, hseg, .array d, hd⟩

/-- So does the rule for documents. -/
theorem document_decides (hfuel : 8 * (ts.length - p) + 7 ≤ fuel) :
    Decides ((grammar m policy).run fuel (.choice [object m, array])) ts p fun part q =>
      ∃ v, part = .value v ∧ Denotes m ts .document p v q := by
  obtain ⟨fuel, rfl⟩ : ∃ f, fuel = f + 7 := ⟨fuel - 7, by omega⟩
  have hinner : ∀ f ≥ fuel + 1, ∀ p' > p, p < ts.length →
      Decides ((grammar m policy).run f (.ref 0)) ts p' (DenotesValue m ts p') :=
    fun f hf p' hp' hlt => value_decides (by grind)
  refine .choice (List.forall_mem_cons.2 ⟨?_, List.forall_mem_singleton.2 ?_⟩)
  · refine (object_decides (hinner (fuel + 1) (Nat.le_refl _))).imp ?_
    rintro _ q ⟨v, rfl, seg, hseg, d, hd⟩
    exact ⟨v, rfl, seg, hseg, .documentObject d, hd⟩
  · refine (array_decides (hinner (fuel + 2) (Nat.le_succ _))).imp ?_
    rintro _ q ⟨v, rfl, seg, hseg, d, hd⟩
    exact ⟨v, rfl, seg, hseg, .documentArray d, hd⟩

end Descent.JsonDocument
