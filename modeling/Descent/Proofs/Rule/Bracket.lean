import Descent.Proofs.Rule.Repetition

/-!
# Lists in brackets

An optional list between two tokens: a failure behind a delimiter is a cut, the option takes the cut
for the absence of the whole list, and then the closing token is looked for right behind the opening
one. It is not there, since the list has begun with an item and no item begins with that token. So
nothing malformed gets through and no item is lost.

`Grammar.Fills` is what may stand between the two tokens. A bracket that matches has it there
(`Grammar.bracket_cases`), and the other way round (`Grammar.Fills.endsWith_bracket`); that this
holds if items never begin with the closing token, and that the bracket ends in any case, is
`Grammar.bracket_accepts_separated_items`.
-/

namespace Descent

/-- Two tokens and the delimiter of the items between them, with the values that are made. -/
structure Bracket (κ ν : Type) where
  opening : κ
  separator : κ
  closing : κ
  /-- The value of a token. -/
  mark : Token κ → ν
  /-- The value of some items. -/
  wrap : List ν → ν
  /-- The value of a list that may be absent. -/
  option : Option ν → ν
  /-- The value of the whole. -/
  build : List ν → ν

namespace Bracket

variable {κ ν : Type}

/-- The opening token, items if there are any, and the closing token. -/
def rule (b : Bracket κ ν) (item : Rule κ ν) : Rule κ ν :=
  .sequence [.token b.opening fun t => .ok (b.mark t),
    .optional (.list item b.separator b.wrap) b.option,
    .token b.closing fun t => .ok (b.mark t)] fun vs => .ok (b.build vs)

/-- The value made of two tokens and the items between them, if there are any. -/
def value (b : Bracket κ ν) (t : Token κ) (items? : Option (List ν)) (u : Token κ) : ν :=
  b.build [b.mark t, b.option (items?.map b.wrap), b.mark u]

end Bracket

namespace Grammar

open Consumer (Separated)

variable {κ ν : Type} [DecidableEq κ] {g : Grammar κ ν} {ts : List (Token κ)} {p q r : Cursor}
  {item : Rule κ ν} {delimiter : κ} {v : ν} {items? : Option (List ν)} {failure : Failure} {m : Nat}
  {b : Bracket κ ν}

/-- Whether items with delimiters between them, or none at all, reach from one cursor to another. -/
inductive Fills (g : Grammar κ ν) (ts : List (Token κ)) (item : Rule κ ν) (delimiter : κ)
    (p : Cursor) : Option (List ν) → Cursor → Prop
  | nothing : Fills g ts item delimiter p none p
  | items {vs : List ν} {q : Cursor} : Separated (g.Matches ts item) ts delimiter p vs q →
    Fills g ts item delimiter p (some vs) q

/-! ## The list inside -/

/-- What an optional list has taken fills the place. -/
theorem fills_of_endsWith_optional (hitem : g.Composed item) {wrap : List ν → ν}
    {option : Option ν → ν}
    (h : g.EndsWith ts (.optional (.list item delimiter wrap) option, p) (.ok v) q) :
    ∃ items?, g.Fills ts item delimiter p items? q ∧ v = option (items?.map wrap) := by
  obtain ⟨w, hlist, rfl⟩ | ⟨-, rfl, rfl⟩ := endsWith_optional_ok_iff.1 h
  · obtain ⟨result, hlists, hw⟩ := (endsWith_list_iff hitem).1 hlist
    cases hlists with
    | items hsep _ =>
      obtain rfl := Except.ok.inj hw
      exact ⟨_, .items hsep, rfl⟩
    | first _ => nomatch hw
    | later _ _ => nomatch hw
  · exact ⟨_, .nothing, rfl⟩

/-- What fills the place is taken if neither an item nor a delimiter can follow. -/
theorem Fills.endsWith_optional (hitem : g.Composed item) (h : g.Fills ts item delimiter p items? q)
    (hstop : ¬KindAt ts q delimiter)
    (hfails : ∃ failure r, g.EndsWith ts (item, q) (.error failure) r) (wrap : List ν → ν)
    (option : Option ν → ν) :
    g.EndsWith ts (.optional (.list item delimiter wrap) option, p)
      (.ok (option (items?.map wrap))) q := by
  cases h with
  | items hsep =>
    have hlist : g.Matches ts (.list item delimiter wrap) p _ q :=
      (endsWith_list_iff hitem).2 ⟨_, .items hsep hstop, rfl⟩
    exact endsWith_optional_ok_iff.2 (Or.inl ⟨_, hlist, rfl⟩)
  | nothing =>
    obtain ⟨failure, r, hf⟩ := hfails
    have hlist : g.EndsWith ts (.list item delimiter wrap, p) (.error failure) p :=
      (endsWith_list_iff hitem).2 ⟨_, .first hf, rfl⟩
    exact endsWith_optional_ok_iff.2 (Or.inr ⟨⟨failure, p, hlist⟩, rfl, rfl⟩)

/-! ## The bracket -/

/-- The two tokens with whatever the optional list has taken between them. -/
theorem matches_bracket {t u : Token κ} (ht : ts[p]? = some t ∧ t.kind = b.opening)
    (hlist : g.Matches ts (.optional (.list item b.separator b.wrap) b.option) (p + 1) v r)
    (hu : ts[r]? = some u ∧ u.kind = b.closing) :
    g.Matches ts (b.rule item) p (b.build [b.mark t, v, b.mark u]) (r + 1) := by
  have hopening : g.Matches ts (.token b.opening fun t => .ok (b.mark t)) p (b.mark t) (p + 1) :=
    endsWith_token_ok_iff.2 ⟨t, ht.1, ht.2, rfl, rfl⟩
  have hclosing : g.Matches ts (.token b.closing fun t => .ok (b.mark t)) r (b.mark u) (r + 1) :=
    endsWith_token_ok_iff.2 ⟨u, hu.1, hu.2, rfl, rfl⟩
  have hparts := PassesWith.cons hopening (.cons hlist (.cons hclosing (.nil (r + 1))))
  exact endsWith_sequence_ok_iff.2 ⟨_, hparts, rfl⟩

section

variable (hitem : g.Composed item)

include hitem

theorem bracket_cases (h : g.Matches ts (b.rule item) p v q) :
    ∃ t items? u r, q = r + 1 ∧ (ts[p]? = some t ∧ t.kind = b.opening) ∧
      (ts[r]? = some u ∧ u.kind = b.closing) ∧ g.Fills ts item b.separator (p + 1) items? r ∧
        v = b.value t items? u := by
  obtain ⟨vs, hparts, hbuild⟩ := endsWith_sequence_ok_iff.1 h
  obtain ⟨first, _, _, rfl, hopening, hparts⟩ := passesWith_cons_iff.1 hparts
  obtain ⟨second, r, _, rfl, hlist, hparts⟩ := passesWith_cons_iff.1 hparts
  obtain ⟨third, _, _, rfl, hclosing, hparts⟩ := passesWith_cons_iff.1 hparts
  obtain ⟨rfl, rfl⟩ := passesWith_nil_iff.1 hparts
  obtain ⟨t, ht, hkind, hfirst, rfl⟩ := endsWith_token_ok_iff.1 hopening
  obtain ⟨items?, hfills, rfl⟩ := fills_of_endsWith_optional hitem hlist
  obtain ⟨u, hu, hkind', hthird, rfl⟩ := endsWith_token_ok_iff.1 hclosing
  obtain rfl := Except.ok.inj hfirst
  obtain rfl := Except.ok.inj hthird
  exact ⟨t, items?, u, r, rfl, ⟨ht, hkind⟩, ⟨hu, hkind'⟩, hfills, (Except.ok.inj hbuild).symm⟩

/-- If an item ends everywhere, a bracket matches or fails ordinarily: no cut gets out of it. -/
theorem bracket_matches_or_balks (hends : ∀ p, ∃ s, g.Ends ts (item, p) s) (b : Bracket κ ν)
    (p : Cursor) : (∃ v q, g.Matches ts (b.rule item) p v q) ∨
      ∃ e, g.EndsWith ts (b.rule item, p) (.error (.backtrack e)) p := by
  -- between the marks is an option, which matches wherever its list ends
  have hlist (p : Cursor) :
      ∃ v q, g.Matches ts (.optional (.list item b.separator b.wrap) b.option) p v q := by
    have hlists : ∃ result q, g.Lists ts item b.separator p result q :=
      exists_lists hitem (fun _ => True) (fun p _ => hends p) (fun _ _ _ _ _ _ => trivial) trivial
    obtain ⟨result, q, hlists⟩ := hlists
    have hlist : g.EndsWith ts (.list item b.separator b.wrap, p) (result.map b.wrap) q :=
      (endsWith_list_iff hitem).2 ⟨result, hlists, rfl⟩
    cases result with
    | ok vs => exact ⟨_, q, endsWith_optional_ok_iff.2 (Or.inl ⟨_, hlist, rfl⟩)⟩
    | error failure => exact ⟨_, p, endsWith_optional_ok_iff.2 (Or.inr ⟨⟨_, _, hlist⟩, rfl, rfl⟩)⟩
  by_cases hopening : KindAt ts p b.opening
  · obtain ⟨t, ht⟩ := hopening
    obtain ⟨v, r, hsecond⟩ := hlist (p + 1)
    by_cases hclosing : KindAt ts r b.closing
    · obtain ⟨u, hu⟩ := hclosing
      exact Or.inl ⟨_, r + 1, matches_bracket ht hsecond hu⟩
    · obtain ⟨e, q, hthird⟩ := exists_balksWith_token hclosing
      have hfirst : g.Matches ts (.token b.opening fun t => .ok (b.mark t)) p (b.mark t) (p + 1) :=
        endsWith_token_ok_iff.2 ⟨t, ht.1, ht.2, rfl, rfl⟩
      have hbefore := PassesWith.cons hfirst (.cons hsecond (.nil r))
      exact Or.inr ⟨e, endsWith_sequence_error hbefore hthird [] _⟩
  · obtain ⟨e, q, hfirst⟩ := exists_balksWith_token hopening
    exact Or.inr ⟨e, endsWith_sequence_error (.nil p) hfirst _ _⟩

variable (hkinds : b.separator ≠ b.closing)
  (hfails : ∀ p, KindAt ts p b.closing → ∃ failure q, g.EndsWith ts (item, p) (.error failure) q)

include hkinds hfails

/-- Items up to the closing token are taken, all of them. -/
theorem Fills.endsWith_optional_of_closing (h : g.Fills ts item b.separator p items? q)
    (hclosing : KindAt ts q b.closing) :
    g.Matches ts (.optional (.list item b.separator b.wrap) b.option) p
      (b.option (items?.map b.wrap)) q := by
  have hstop : ¬KindAt ts q b.separator := fun hd => hkinds (hd.unique hclosing)
  exact h.endsWith_optional hitem hstop (hfails q hclosing) b.wrap b.option

theorem Fills.endsWith_bracket {t u : Token κ} (ht : ts[p]? = some t ∧ t.kind = b.opening)
    (h : g.Fills ts item b.separator (p + 1) items? r) (hu : ts[r]? = some u ∧ u.kind = b.closing) :
    g.Matches ts (b.rule item) p (b.value t items? u) (r + 1) :=
  matches_bracket ht (h.endsWith_optional_of_closing hitem hkinds hfails ⟨u, hu⟩) hu

/-- Behind a delimiter there must be an item. -/
theorem Rounds.not_matches_bracket (h : g.Rounds ts item b.separator (m + 1) (p + 1) q)
    (hitemFails : g.EndsWith ts (item, q) (.error failure) r) {stop : Cursor} :
    ¬g.Matches ts (b.rule item) p v stop := by
  intro hmatches
  obtain ⟨t, items?, u, s, -, -, hu, hfills, -⟩ := bracket_cases hitem hmatches
  have htaken := hfills.endsWith_optional_of_closing hitem hkinds hfails ⟨u, hu⟩
  -- the list has failed with a cut, so the option has taken nothing
  have hlist :
      g.EndsWith ts (.list item b.separator b.wrap, p + 1) (.error failure.toCut) (p + 1) :=
    (endsWith_list_iff hitem).2 ⟨_, .later h hitemFails, rfl⟩
  have hnothing : g.Matches ts (.optional (.list item b.separator b.wrap) b.option) (p + 1)
      (b.option none) (p + 1) :=
    endsWith_optional_ok_iff.2 (Or.inr ⟨⟨_, _, hlist⟩, rfl, rfl⟩)
  obtain ⟨-, rfl⟩ := htaken.unique hnothing
  -- but then the closing token stands where the first item began
  obtain ⟨failure', r', hfirst⟩ := hfails (p + 1) ⟨u, hu⟩
  cases h with
  | succ hends hok _ _ =>
    obtain ⟨ho, -⟩ := hfirst.unique ⟨_, hends, hok, rfl⟩
    cases ho

end

/-- If items end everywhere and never begin with the closing token, which is no delimiter, then a
bracket accepts exactly its two tokens with items between them, each pair of which has one delimiter
between it, and hands on all of the items. It fails ordinarily and does not move otherwise; so it
does if an item is missing or malformed behind a delimiter. -/
theorem bracket_accepts_separated_items (b : Bracket κ ν) (hitem : g.Composed item)
    (hkinds : b.separator ≠ b.closing) (hends : ∀ p, ∃ s, g.Ends ts (item, p) s)
    (hfails : ∀ p, KindAt ts p b.closing → ∃ failure q, g.EndsWith ts (item, p) (.error failure) q)
    (p : Cursor) :
    (∀ v q, g.EndsWith ts (b.rule item, p) (.ok v) q ↔
      ∃ t items? u r, q = r + 1 ∧ (ts[p]? = some t ∧ t.kind = b.opening) ∧
        (ts[r]? = some u ∧ u.kind = b.closing) ∧ g.Fills ts item b.separator (p + 1) items? r ∧
          v = b.value t items? u) ∧
    ((∃ v q, g.EndsWith ts (b.rule item, p) (.ok v) q) ∨
      ∃ e, g.EndsWith ts (b.rule item, p) (.error (.backtrack e)) p) ∧
    ∀ m q r failure, g.Rounds ts item b.separator (m + 1) (p + 1) q →
      g.EndsWith ts (item, q) (.error failure) r →
        ∃ e, g.EndsWith ts (b.rule item, p) (.error (.backtrack e)) p := by
  have hsettles := bracket_matches_or_balks hitem hends b p
  refine ⟨fun v q => ⟨bracket_cases hitem, ?_⟩, hsettles, ?_⟩
  · rintro ⟨t, items?, u, r, rfl, ht, hu, hfills, rfl⟩
    exact hfills.endsWith_bracket hitem hkinds hfails ht hu
  · intro m q r failure hrounds hitemFails
    obtain ⟨v, stop, hmatches⟩ | hbalks := hsettles
    · exact absurd hmatches (hrounds.not_matches_bracket hitem hkinds hfails hitemFails)
    · exact hbalks

/-- Numbers that cut where there is none: two of them, and one with a delimiter behind it. -/
theorem bracket_accepts_separated_items_dangling :
    let g : Grammar Char (List Nat) := ⟨[], .furthest⟩
    let b : Bracket Char (List Nat) :=
      ⟨'[', ',', ']', fun _ => [], List.flatten, fun items? => items?.getD [], List.flatten⟩
    let item : Rule Char (List Nat) := .cut (.token 'n' fun t => .ok [t.offset])
    let tokens (kinds : List Char) : List (Token Char) := kinds.zipIdx.map fun (kind, i) =>
      ⟨kind, kind.toString, ⟨⟨0, i⟩, ⟨0, i + 1⟩⟩, i⟩
    g.Composed item ∧ b.separator ≠ b.closing ∧ (∀ ts p, ∃ s, g.Ends ts (item, p) s) ∧
      (∀ ts p, KindAt ts p b.closing → ∃ failure q, g.EndsWith ts (item, p) (.error failure) q) ∧
      g.EndsWith (tokens ['[', 'n', ',', 'n', ']']) (b.rule item, 0) (.ok [1, 3]) 5 ∧
      ∃ e, g.EndsWith (tokens ['[', 'n', ',', ']']) (b.rule item, 0) (.error (.backtrack e)) 0 := by
  intro g b item tokens
  have hitem : g.Composed item := composed_of_isPlain rfl rfl
  have hkinds : b.separator ≠ b.closing := by decide
  have hfails (ts : List (Token Char)) (p : Cursor) (hp : ¬KindAt ts p 'n') :
      ∃ failure q, g.EndsWith ts (item, p) (.error failure) q := by
    obtain ⟨e, q, he⟩ := exists_balksWith_token hp
    exact ⟨.cut e, q, endsWith_cut_iff.2 ⟨_, he, rfl⟩⟩
  have hends (ts : List (Token Char)) (p : Cursor) : ∃ s, g.Ends ts (item, p) s := by
    by_cases hp : KindAt ts p 'n'
    · obtain ⟨t, ht, hkind⟩ := hp
      have hnumber : g.Matches ts item p [t.offset] (p + 1) :=
        endsWith_cut_iff.2 ⟨_, endsWith_token_ok_iff.2 ⟨t, ht, hkind, rfl, rfl⟩, rfl⟩
      exact hnumber.imp fun _ hs => hs.1
    · obtain ⟨failure, q, hf⟩ := hfails ts p hp
      exact hf.imp fun _ hs => hs.1
  have hclosing (ts : List (Token Char)) (p : Cursor) (hp : KindAt ts p b.closing) :
      ∃ failure q, g.EndsWith ts (item, p) (.error failure) q :=
    hfails ts p fun hn => absurd (hn.unique hp) (by decide)
  have hall (ts : List (Token Char)) :=
    bracket_accepts_separated_items b hitem hkinds (hends ts) (hclosing ts) 0
  refine ⟨hitem, hkinds, hends, hclosing, ?_, ?_⟩
  · obtain ⟨haccepts, -, -⟩ := hall (tokens ['[', 'n', ',', 'n', ']'])
    have hfirst : g.Matches (tokens ['[', 'n', ',', 'n', ']']) item 1 [1] 2 :=
      ⟨_, ⟨2, rfl⟩, rfl, rfl⟩
    have hsecond : g.Matches (tokens ['[', 'n', ',', 'n', ']']) item 3 [3] 4 :=
      ⟨_, ⟨2, rfl⟩, rfl, rfl⟩
    have hfills := Fills.items (.more hfirst ⟨_, rfl, rfl⟩ (.last hsecond))
    exact (haccepts _ 5).2 ⟨_, _, _, 4, rfl, ⟨rfl, rfl⟩, ⟨rfl, rfl⟩, hfills, rfl⟩
  · obtain ⟨-, -, hrejects⟩ := hall (tokens ['[', 'n', ',', ']'])
    have hround : g.Rounds (tokens ['[', 'n', ',', ']']) item ',' 1 1 3 :=
      .succ ⟨2, rfl⟩ rfl ⟨_, rfl, rfl⟩ (.zero 3)
    obtain ⟨failure, r, hf⟩ := hclosing (tokens ['[', 'n', ',', ']']) 3 ⟨_, rfl, rfl⟩
    exact hrejects 0 3 r failure hround hf

end Grammar

end Descent
