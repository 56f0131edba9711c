import Descent.Proofs.JsonDocument.Derivation
import Descent.Proofs.Rule.Stretch

/-!
# Runs of the rules for JSON

How the rules behave that make up the grammar: single tokens, the alternatives for a value, each of
which begins with a token of its own kind, and brackets. Whatever goes wrong between brackets, a cut
included, counts as there being nothing, whereupon the closing bracket is looked for right behind
the opening one. So a pair of brackets never cuts, and what it yields is either empty or separated
by commas from end to end.
-/

namespace Descent.JsonDocument

open Consumer

variable {m : Meaning} {policy : ErrorPolicy} {ts seg : List (Token Kind)} {p q : Cursor}
  {fuel : Nat} {kind left right : Kind} {v : Value} {part : Part} {parts : List Part}

/-! ## Single tokens -/

theorem yields_mark (h : KindAt ts p kind) :
    Yields ((grammar m policy).run (fuel + 1) (mark kind)) ts p .mark (p + 1) := by
  obtain ⟨t, ht, hkind⟩ := h
  exact Grammar.yields_token ht hkind rfl

theorem mark_decides : Decides ((grammar m policy).run (fuel + 1) (mark kind)) ts p fun part q =>
    part = .mark ∧ q = p + 1 ∧ KindAt ts p kind := by
  by_cases h : KindAt ts p kind
  · exact Or.inl ⟨.mark, p + 1, yields_mark h, rfl, rfl, h⟩
  · exact Or.inr (Grammar.balks_token_of_not h)

/-! ## Values -/

/-- A rule with the kind of the token it begins with. -/
abbrev Alternative := Kind × Rule Kind Part

/-- What a value can be. -/
def alternatives (m : Meaning) : List Alternative :=
  [(.string, stringValue m), (.number, number m), (.true, word .true (.bool Bool.true)),
    (.false, word .false (.bool Bool.false)), (.null, word .null .null),
    (.leftCurly, object m), (.leftSquare, array)]

theorem balks_bracketed {item : Rule Kind Part} {build : List Part → Value}
    (h : ¬KindAt ts p left) :
    Balks ((grammar m policy).run (fuel + 2) (bracketed left right item build)) ts p :=
  .sequence (.inOrder_head (Grammar.balks_token_of_not h))

/-- No alternative matches in front of a token that it does not begin with. -/
theorem balks_alternative {a : Alternative} (ha : a ∈ alternatives m) (h : ¬KindAt ts p a.1) :
    Balks ((grammar m policy).run (fuel + 3) a.2) ts p := by
  simp only [alternatives, List.mem_cons, List.not_mem_nil, or_false] at ha
  rcases ha with rfl | rfl | rfl | rfl | rfl | rfl | rfl
  · exact .map _ (Grammar.balks_token_of_not h)
  · exact Grammar.balks_token_of_not h
  · exact Grammar.balks_token_of_not h
  · exact Grammar.balks_token_of_not h
  · exact Grammar.balks_token_of_not h
  · exact .named "object" (balks_bracketed h)
  · exact .named "array" (balks_bracketed h)

/-- No two alternatives begin with tokens of the same kind. -/
theorem ne_of_alternatives_eq {a : Alternative} {before after : List Alternative}
    (h : alternatives m = before ++ a :: after) : ∀ b ∈ before, b.1 ≠ a.1 := by
  have hnodup : ((alternatives m).map Prod.fst).Nodup := by
    have hkinds : (alternatives m).map Prod.fst
        = [.string, .number, .true, .false, .null, .leftCurly, .leftSquare] := rfl
    rw [hkinds]
    decide
  rw [h, List.map_append, List.map_cons, List.nodup_append] at hnodup
  exact fun b hb => hnodup.2.2 b.1 (List.mem_map_of_mem hb) a.1 List.mem_cons_self

/-- The rule for values is a choice among the alternatives. -/
theorem run_value (m : Meaning) (policy : ErrorPolicy) (fuel : Nat) :
    (grammar m policy).run (fuel + 3) (.ref 0) = Consumer.named "value"
      (.choice policy ((alternatives m).map fun a => (grammar m policy).run fuel a.2)) := rfl

/-- A value is what the alternative for its first token yields. -/
theorem yields_value {a : Alternative} (ha : a ∈ alternatives m) (h : KindAt ts p a.1)
    (hv : Yields ((grammar m policy).run (fuel + 3) a.2) ts p part q) :
    Yields ((grammar m policy).run (fuel + 6) (.ref 0)) ts p part q := by
  obtain ⟨before, after, hsplit⟩ := List.append_of_mem ha
  rw [run_value, hsplit, List.map_append, List.map_cons]
  refine .named "value" (.choice _ _ (fun c hc => ?_) hv)
  obtain ⟨b, hb, rfl⟩ := List.mem_map.1 hc
  -- the token is of another kind than the alternatives before begin with
  have hne := ne_of_alternatives_eq hsplit b hb
  exact balks_alternative (hsplit ▸ List.mem_append_left _ hb) fun hkind => hne (hkind.unique h)

/-- Where no alternative begins there is no value. -/
theorem balks_value (h : ∀ a ∈ alternatives m, ¬KindAt ts p a.1) :
    Balks ((grammar m policy).run (fuel + 6) (.ref 0)) ts p := by
  rw [run_value]
  refine .named "value" (.choice fun c hc => ?_)
  obtain ⟨a, ha, rfl⟩ := List.mem_map.1 hc
  exact balks_alternative ha (h a ha)

/-- A token that is a value by itself yields it. -/
theorem yields_scalar {t : Token Kind} (ht : ts[p]? = some t) (h : t.kind ∈ scalars)
    (hv : m.scalar? t = some v) :
    Yields ((grammar m policy).run (fuel + 6) (.ref 0)) ts p (.value v) (p + 1) := by
  simp only [scalars, List.mem_cons, List.not_mem_nil, or_false] at h
  rcases h with h | h | h | h | h <;> simp only [Meaning.scalar?, h] at hv
  · obtain ⟨s, hs, rfl⟩ := Option.map_eq_some_iff.1 hv
    have hkey : Yields ((grammar m policy).run (fuel + 2) (string m)) ts p (.key s) (p + 1) :=
      Grammar.yields_token ht h (by rw [Meaning.toOption_eq_some_iff.1 hs]; rfl)
    exact yields_value (a := (.string, stringValue m)) (by simp [alternatives]) ⟨t, ht, h⟩
      (hkey.map _)
  · have hnumber := Meaning.toOption_eq_some_iff.1 hv
    exact yields_value (a := (.number, number m)) (by simp [alternatives]) ⟨t, ht, h⟩
      (Grammar.yields_token ht h (by rw [hnumber]; rfl))
  all_goals
    obtain rfl := Option.some.inj hv
    exact yields_value (a := (_, word _ _)) (by simp [alternatives]) ⟨t, ht, h⟩
      (Grammar.yields_token ht h rfl)

/-! ## Brackets -/

/-- What may stand between brackets: nothing, or parts with commas between them. -/
def Contents (S : Cursor → Part → Cursor → Prop) (ts : List (Token Kind)) (p : Cursor)
    (parts : List Part) (q : Cursor) : Prop :=
  (parts = [] ∧ q = p) ∨ Separated S ts .comma p parts q

variable {item : Rule Kind Part} {build : List Part → Value}

/-- The rule for what stands between brackets. -/
def contents (item : Rule Kind Part) : Rule Kind Part :=
  .optional (.list item .comma .contents) (·.getD (.contents []))

theorem yields_contents
    (h : Contents (Advances ((grammar m policy).run fuel item) ts) ts p parts q)
    (hitem : KindAt ts p right → Fails ((grammar m policy).run fuel item) ts p)
    (hright : KindAt ts q right) (hcomma : right ≠ .comma) :
    Yields ((grammar m policy).run (fuel + 2) (contents item)) ts p (.contents parts) q := by
  rcases h with ⟨rfl, rfl⟩ | hseparated
  · exact ((hitem hright).list.map _).optional.map _
  · exact ((Yields.list hseparated fun hkind => hcomma (hright.unique hkind)).map _).optional.map _

/-- What stands between brackets is always settled: a list that fails, even with a cut, counts as
nothing. -/
theorem contents_decides {Good : Cursor → Part → Cursor → Prop}
    (hitem : ∀ p' ≥ p, Settles ((grammar m policy).run fuel item) ts p' (Good p'))
    (hforward : ∀ p part q, Good p part q → p < q) :
    Decides ((grammar m policy).run (fuel + 2) (contents item)) ts p fun part q =>
      ∃ parts, part = .contents parts ∧ Contents Good ts p parts q := by
  have hlist : Settles (list ((grammar m policy).run fuel item) .comma) ts p
      (Separated Good ts .comma p) := list_settles hitem hforward
  rcases hlist with ⟨parts, q, hlist, hgood⟩ | hlist
  · exact Or.inl ⟨_, q, (hlist.map _).optional.map _, parts, rfl, Or.inr hgood⟩
  · exact Or.inl ⟨_, p, (hlist.map _).optional.map _, [], rfl, Or.inl ⟨rfl, rfl⟩⟩

theorem yields_bracketed (hleft : KindAt ts p left)
    (h : Contents (Advances ((grammar m policy).run fuel item) ts) ts (p + 1) parts q)
    (hitem : KindAt ts (p + 1) right → Fails ((grammar m policy).run fuel item) ts (p + 1))
    (hright : KindAt ts q right) (hcomma : right ≠ .comma) :
    Yields ((grammar m policy).run (fuel + 3) (bracketed left right item build)) ts p
      (.value (build parts)) (q + 1) := by
  have hcontents := yields_contents h hitem hright hcomma
  refine .sequence (.inOrder_cons (yields_mark hleft) (.inOrder_cons hcontents
    (.inOrder_cons (yields_mark hright) yields_inOrder_nil))) ?_
  simp [Part.inside]

theorem bracketed_decides {Good : Cursor → Part → Cursor → Prop}
    (hitem : KindAt ts p left →
      ∀ p' ≥ p + 1, Settles ((grammar m policy).run fuel item) ts p' (Good p'))
    (hforward : ∀ p part q, Good p part q → p < q) :
    Decides ((grammar m policy).run (fuel + 3) (bracketed left right item build)) ts p fun part r =>
      ∃ parts q, part = .value (build parts) ∧ KindAt ts p left ∧
        Contents Good ts (p + 1) parts q ∧ KindAt ts q right ∧ r = q + 1 := by
  refine .sequence (.inOrder_cons mark_decides ?_)
  rintro _ _ ⟨rfl, rfl, hleft⟩
  refine .inOrder_cons (contents_decides (hitem hleft) hforward) ?_
  rintro _ q ⟨parts, rfl, hcontents⟩
  refine .inOrder_cons mark_decides ?_
  rintro _ _ ⟨rfl, rfl, hright⟩
  exact .inOrder_nil ⟨_, rfl, parts, q, by simp [Part.inside], hleft, hcontents, hright, rfl⟩

end Descent.JsonDocument
