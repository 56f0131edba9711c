import Descent.Proofs.Rule.Ends
import Descent.Proofs.Rule.Failure
import Descent.Proofs.Rule.Relabel

/-!
# Lists are recursive rules

A list is a loop: it takes items as long as a delimiter follows, and what fails behind a delimiter
is a cut. `Grammar.Lists` says what comes of it, and a list ends in exactly these ways if its items
are composed (`Grammar.endsWith_list_iff`).

The same can be written as a rule that refers to itself: an item, and behind it either a delimiter
and, under a cut, the rule again, or nothing. What the transforms of this rule have to do is a
`Collector`. Each round of the loop is a level of the recursion, which makes a choice of its own and
has cuts of its own, and still the two end alike from every cursor that is not beyond the tokens
(`Grammar.list_iff_chain`). Beyond them nothing at all is found, not even no tokens, so there the
recursive rule would fail behind an item that takes nothing.
-/

namespace Descent

namespace Failure

@[simp] theorem toCut_toCut (failure : Failure) : failure.toCut.toCut = failure.toCut := by
  cases failure <;> rfl

end Failure

namespace Grammar

open Consumer (Separated Advances itemsFrom itemsFrom_cases list_cases any_kind_iff)

variable {κ ν : Type} [DecidableEq κ] {g : Grammar κ ν} {ts : List (Token κ)} {p q r : Cursor}
  {item : Rule κ ν} {delimiter : κ} {wrap : List ν → ν} {o : Except Failure ν} {v : ν} {vs : List ν}
  {failure : Failure} {m n : Nat}

/-- Whether a rule matches, with which value, and from where to where. -/
abbrev Matches (g : Grammar κ ν) (ts : List (Token κ)) (rule : Rule κ ν) (p : Cursor) (v : ν)
    (q : Cursor) : Prop :=
  g.EndsWith ts (rule, p) (.ok v) q

/-- What a list comes to: items with delimiters between them, the last of them without one behind
it; or the failure of the first item; or that of a later item as a cut. A list that fails has not
moved. -/
inductive Lists (g : Grammar κ ν) (ts : List (Token κ)) (item : Rule κ ν) (delimiter : κ)
    (p : Cursor) : Except Failure (List ν) → Cursor → Prop
  | items {vs : List ν} {q : Cursor} : Separated (g.Matches ts item) ts delimiter p vs q →
    ¬KindAt ts q delimiter → Lists g ts item delimiter p (.ok vs) q
  | first {failure : Failure} {r : Cursor} : g.EndsWith ts (item, p) (.error failure) r →
    Lists g ts item delimiter p (.error failure) p
  | later {m : Nat} {q r : Cursor} {failure : Failure} : g.Rounds ts item delimiter (m + 1) p q →
    g.EndsWith ts (item, q) (.error failure) r →
      Lists g ts item delimiter p (.error failure.toCut) p

/-! ## The loop -/

/-- An item that fails behind some rounds, or none. -/
theorem Rounds.lists (h : g.Rounds ts item delimiter m p q)
    (hitem : g.EndsWith ts (item, q) (.error failure) r) :
    g.Lists ts item delimiter p (.error (if m = 0 then failure else failure.toCut)) p := by
  cases m with
  | zero =>
    cases h
    exact .first hitem
  | succ m => exact .later h hitem

theorem separated_of_itemsFrom {fuel count : Nat} {s : Step κ (List ν)}
    (hs : itemsFrom (g.run n item) delimiter ts fuel count p = some s) (ho : s.outcome = .ok vs) :
    Separated (g.Matches ts item) ts delimiter p vs s.cursor ∧ ¬KindAt ts s.cursor delimiter := by
  induction fuel generalizing count p s vs with
  | zero => nomatch hs
  | succ fuel ih =>
    obtain ⟨t, ht, ⟨_, _, -, rfl⟩ | ⟨v, hv, ⟨hd, u, hu, rfl⟩ | ⟨hstop, rfl⟩⟩⟩ := itemsFrom_cases hs
    · cases ho
    · obtain ⟨us, hus, rfl⟩ := map_eq_ok_iff.1 ho
      obtain ⟨hsep, hstop⟩ := ih hu hus
      exact ⟨.more ⟨t, ⟨n, ht⟩, hv, rfl⟩ (any_kind_iff.1 hd) hsep, hstop⟩
    · obtain rfl := Except.ok.inj ho
      exact ⟨.last ⟨t, ⟨n, ht⟩, hv, rfl⟩, mt any_kind_iff.2 hstop⟩

/-- Items that match do so with all fuel from some amount on. -/
theorem exists_separated_advances (hitem : g.Composed item)
    (h : Separated (g.Matches ts item) ts delimiter p vs q) :
    ∃ n, ∀ m, n ≤ m → Separated (Advances (g.run m item) ts) ts delimiter p vs q := by
  have hitem {p q : Cursor} {v : ν} (hv : g.Matches ts item p v q) :
      ∃ n, ∀ m, n ≤ m → Advances (g.run m item) ts p v q := by
    obtain ⟨⟨_, q, log⟩, ⟨n, hs⟩, rfl, rfl⟩ := hv
    have hbounds := Ends.bounds (c := (item, p)) ⟨n, hs⟩ hitem rfl
    exact ⟨n, fun m hm => ⟨⟨log, run_mono hm hs⟩, hbounds.1⟩⟩
  induction h with
  | last hv =>
    obtain ⟨n, hn⟩ := hitem hv
    exact ⟨n, fun m hm => .last (hn m hm)⟩
  | more hv hd _ ih =>
    obtain ⟨k, hk⟩ := hitem hv
    obtain ⟨n, hn⟩ := ih
    refine ⟨max k n, fun m hm => ?_⟩
    have hfirst := hk m (le_trans (Nat.le_max_left k n) hm)
    have hrest := hn m (le_trans (Nat.le_max_right k n) hm)
    exact .more hfirst hd hrest

/-- An item that fails behind some rounds makes the loop fail. The rounds have taken a token each,
so the loop has come as far. -/
theorem Rounds.exists_itemsFrom_error (hitem : g.Composed item)
    (h : g.Rounds ts item delimiter m p q) (hfails : g.EndsWith ts (item, q) (.error failure) r) :
    ∃ n, ∀ k, n ≤ k → ∀ fuel count, ts.length - p < fuel → ∃ s,
      itemsFrom (g.run k item) delimiter ts fuel count p = some s ∧
        s.outcome = .error (if count + m = 0 then failure else failure.toCut) := by
  induction h with
  | zero p =>
    obtain ⟨n, hn⟩ := hfails.exists_run
    refine ⟨n, fun k hk fuel count hfuel => ?_⟩
    obtain ⟨t, ht, ho, -⟩ := hn k hk
    obtain ⟨fuel, rfl⟩ := Nat.exists_eq_add_of_lt hfuel
    rw [itemsFrom, ht, Option.bind_some, ho, Nat.add_zero]
    by_cases hcount : count = 0
    · exact ⟨_, if_pos hcount, congrArg Except.error (if_pos hcount).symm⟩
    · exact ⟨_, if_neg hcount, congrArg Except.error (if_neg hcount).symm⟩
  | @succ m p q t v hends hok hd _ ih =>
    have hbounds := hends.bounds hitem hok
    obtain ⟨n, ht⟩ := hends
    obtain ⟨n', hn'⟩ := ih hfails
    refine ⟨max n n', fun k hk fuel count hfuel => ?_⟩
    have ht : g.run k item ts p = some t := run_mono (le_trans (Nat.le_max_left n n') hk) ht
    have hlt := hd.lt
    obtain ⟨fuel, rfl⟩ := Nat.exists_eq_add_of_lt hfuel
    obtain ⟨s, hs, ho⟩ := hn' k (le_trans (Nat.le_max_right n n') hk) (ts.length - p + fuel)
      (count + 1) (by grind)
    refine ⟨⟨s.outcome.map (v :: ·), s.cursor, t.log ++ s.log⟩, ?_, ?_⟩
    · rw [itemsFrom, ht, Option.bind_some, hok]
      simp only [if_pos (any_kind_iff.2 hd), Cursor.advance, hs, Option.map_some]
    · rw [ho, Nat.add_assoc, Nat.add_comm 1 m]
      rfl

/-- In front of a list that comes to something, an item and a delimiter make a longer one. -/
theorem Lists.cons (hv : g.Matches ts item p v q) (hd : KindAt ts q delimiter)
    {result : Except Failure (List ν)} (h : g.Lists ts item delimiter (q + 1) result r) :
    ∃ result r, g.Lists ts item delimiter p result r := by
  cases h with
  | items hsep hstop => exact ⟨_, _, .items (.more hv hd hsep) hstop⟩
  | first hf =>
    obtain ⟨s, hends, hok, rfl⟩ := hv
    exact ⟨_, _, .later (.succ hends hok hd (.zero _)) hf⟩
  | later hrounds hf =>
    obtain ⟨s, hends, hok, rfl⟩ := hv
    exact ⟨_, _, .later (.succ hends hok hd hrounds) hf⟩

/-- A list comes to something if an item ends at every cursor that the loop gets to. -/
theorem exists_lists (hitem : g.Composed item) (Reached : Cursor → Prop)
    (hends : ∀ p, Reached p → ∃ s, g.Ends ts (item, p) s)
    (hnext : ∀ p v q, Reached p → g.Matches ts item p v q → KindAt ts q delimiter →
      Reached (q + 1)) (hp : Reached p) : ∃ result q, g.Lists ts item delimiter p result q := by
  -- every further round begins behind a delimiter
  induction hleft : ts.length - p using Nat.strong_induction_on generalizing p with
  | h left ih =>
    obtain ⟨s, hs⟩ := hends p hp
    cases ho : s.outcome with
    | error failure => exact ⟨_, _, .first ⟨s, hs, ho, rfl⟩⟩
    | ok v =>
      have hv : g.Matches ts item p v s.cursor := ⟨s, hs, ho, rfl⟩
      by_cases hd : KindAt ts s.cursor delimiter
      · have hbounds := hs.bounds hitem ho
        have hlt := hd.lt
        obtain ⟨result, r, hrest⟩ :=
          ih (ts.length - (s.cursor + 1)) (by grind) (hnext p v _ hp hv hd) rfl
        exact hrest.cons hv hd
      · exact ⟨_, _, .items (.last hv) hd⟩

/-- A list ends in exactly the ways given. -/
theorem endsWith_list_iff (hitem : g.Composed item) :
    g.EndsWith ts (.list item delimiter wrap, p) o q ↔
      ∃ result, g.Lists ts item delimiter p result q ∧ o = result.map wrap := by
  constructor
  · rintro ⟨s, hs, rfl, rfl⟩
    obtain ⟨n, hs⟩ := hs.exists_run_succ
    obtain ⟨t, ht, rfl⟩ := Option.map_eq_some_iff.1 hs
    obtain ⟨u, hu, ⟨vs, hvs, rfl⟩ | ⟨failure, hf, rfl⟩⟩ := list_cases ht
    · obtain ⟨hsep, hstop⟩ := separated_of_itemsFrom hu hvs
      exact ⟨_, .items hsep hstop, rfl⟩
    · obtain ⟨m, q, w, failure', hrounds, hw, hf', rfl⟩ := exists_item_of_itemsFrom hu hf
      rw [Nat.zero_add]
      exact ⟨_, hrounds.lists ⟨w, ⟨n, hw⟩, hf', rfl⟩, rfl⟩
  · rintro ⟨_, hlists, rfl⟩
    have hfuel : ts.length - p < ts.length + 1 := Nat.lt_succ_of_le (Nat.sub_le _ _)
    -- a list that fails ends where it began
    have hfails {m : Nat} {q r : Cursor} {failure : Failure}
        (hrounds : g.Rounds ts item delimiter m p q)
        (hf : g.EndsWith ts (item, q) (.error failure) r) :
        g.EndsWith ts (.list item delimiter wrap, p)
          (.error (if m = 0 then failure else failure.toCut)) p := by
      obtain ⟨n, hn⟩ := hrounds.exists_itemsFrom_error hitem hf
      obtain ⟨s, hs, ho⟩ := hn n (Nat.le_refl n) _ 0 hfuel
      rw [Nat.zero_add] at ho
      refine ⟨⟨_, p, s.log⟩, ⟨n + 1, ?_⟩, rfl, rfl⟩
      rw [run, Consumer.map, Consumer.list, hs]
      simp only [Option.map_some, ho]
      rfl
    cases hlists with
    | items hsep hstop =>
      obtain ⟨n, hn⟩ := exists_separated_advances hitem hsep
      have hlist := Consumer.Yields.list (hn n (Nat.le_refl n)) hstop
      exact endsWith_of_yields (n := n + 1) (hlist.map wrap)
    | first hf => exact hfails (.zero p) hf
    | later hrounds hf => exact hfails hrounds hf

end Grammar

/-! ## The recursion -/

/-- Transforms that collect the values of items in order and drop what stands between them. They
reject nothing that the rules below hand to them. -/
structure Collector (κ ν : Type) where
  /-- The value of a list. -/
  wrap : List ν → ν
  /-- The value of a delimiter. -/
  mark : Token κ → ν
  /-- An item in front of others. -/
  push : List ν → Except String ν
  /-- Items behind a delimiter. -/
  drop : List ν → Except String ν
  push_eq : ∀ v vs, push [v, wrap vs] = .ok (wrap (v :: vs))
  drop_eq : ∀ t vs, drop [mark t, wrap vs] = .ok (wrap vs)

namespace Collector

variable {κ ν : Type}

/-- What follows an item: a delimiter and the whole again, which must not fail then, or nothing. -/
def tail (k : Collector κ ν) (delimiter : κ) (self : Rule κ ν) : Rule κ ν :=
  .choice [.sequence [.token delimiter fun t => .ok (k.mark t), .cut self] k.drop,
    .tokens [] fun _ => .ok (k.wrap [])]

/-- An item and what follows it. -/
def chain (k : Collector κ ν) (item : Rule κ ν) (delimiter : κ) (self : Rule κ ν) : Rule κ ν :=
  .sequence [item, k.tail delimiter self] k.push

end Collector

namespace Grammar

open Consumer (Separated)

variable {κ ν : Type} [DecidableEq κ] {g : Grammar κ ν} {ts : List (Token κ)} {p q r : Cursor}
  {item self : Rule κ ν} {delimiter : κ} {o : Except Failure ν} {v : ν} {vs : List ν}
  {failure : Failure} {m id : Nat} {k : Collector κ ν}

theorem endsWith_tail_of_not (hd : ¬KindAt ts p delimiter) (hp : p ≤ ts.length) :
    g.EndsWith ts (k.tail delimiter self, p) (.ok (k.wrap [])) p := by
  obtain ⟨e, q, hmark⟩ := exists_balksWith_token hd
  have hbalks := endsWith_sequence_error (.nil p) hmark [.cut self] k.drop
  have hnothing : g.EndsWith ts (.tokens [] fun _ => .ok (k.wrap []), p) (.ok (k.wrap [])) p :=
    endsWith_tokens_nil rfl hp
  refine endsWith_choice_iff.2 (Or.inl (settled_cons_iff.2 (Or.inr ⟨⟨e, p, hbalks⟩, ?_⟩)))
  exact settled_cons_iff.2 (Or.inl (.value hnothing))

theorem exists_matches_mark (k : Collector κ ν) (hd : KindAt ts p delimiter) :
    ∃ t, g.Matches ts (.token delimiter fun t => .ok (k.mark t)) p (k.mark t) (p + 1) := by
  obtain ⟨t, ht, hkind⟩ := hd
  exact ⟨t, endsWith_token_ok_iff.2 ⟨t, ht, hkind, rfl, rfl⟩⟩

theorem endsWith_tail_ok (hd : KindAt ts p delimiter)
    (hself : g.EndsWith ts (self, p + 1) (.ok (k.wrap vs)) q) :
    g.EndsWith ts (k.tail delimiter self, p) (.ok (k.wrap vs)) q := by
  obtain ⟨t, hmark⟩ := exists_matches_mark k hd
  have hcut : g.Matches ts (.cut self) (p + 1) (k.wrap vs) q := endsWith_cut_iff.2 ⟨_, hself, rfl⟩
  have hfirst := endsWith_sequence_ok_iff.2 ⟨_, .cons hmark (.cons hcut (.nil q)), k.drop_eq t vs⟩
  exact endsWith_choice_iff.2 (Or.inl (settled_cons_iff.2 (Or.inl (.value hfirst))))

theorem endsWith_tail_error (hd : KindAt ts p delimiter)
    (hself : g.EndsWith ts (self, p + 1) (.error failure) q) :
    g.EndsWith ts (k.tail delimiter self, p) (.error failure.toCut) p := by
  obtain ⟨t, hmark⟩ := exists_matches_mark k hd
  have hcut : g.EndsWith ts (.cut self, p + 1) (.error failure.toCut) q :=
    endsWith_cut_iff.2 ⟨_, hself, rfl⟩
  have hfirst := endsWith_sequence_error (.cons hmark (.nil (p + 1))) hcut [] k.drop
  refine endsWith_choice_iff.2 (Or.inl (settled_cons_iff.2 (Or.inl ?_)))
  cases failure <;> exact .cut hfirst

section

variable (hdef : g.definition? id = some (k.chain item delimiter (.ref id)))

include hdef

theorem endsWith_chain_ok (hv : g.Matches ts item p v q)
    (htail : g.EndsWith ts (k.tail delimiter (.ref id), q) (.ok (k.wrap vs)) r) :
    g.EndsWith ts (.ref id, p) (.ok (k.wrap (v :: vs))) r := by
  rw [endsWith_ref_iff hdef]
  exact endsWith_sequence_ok_iff.2 ⟨_, .cons hv (.cons htail (.nil r)), k.push_eq v vs⟩

theorem endsWith_chain_tail_error (hv : g.Matches ts item p v q)
    (htail : g.EndsWith ts (k.tail delimiter (.ref id), q) (.error failure) r) :
    g.EndsWith ts (.ref id, p) (.error failure) p := by
  rw [endsWith_ref_iff hdef]
  exact endsWith_sequence_error (.cons hv (.nil q)) htail [] k.push

theorem endsWith_chain_item_error (hitem : g.EndsWith ts (item, p) (.error failure) q) :
    g.EndsWith ts (.ref id, p) (.error failure) p := by
  rw [endsWith_ref_iff hdef]
  exact endsWith_sequence_error (.nil p) hitem [k.tail delimiter (.ref id)] k.push

theorem Rounds.endsWith_chain (h : g.Rounds ts item delimiter m p q)
    (hitem : g.EndsWith ts (item, q) (.error failure) r) :
    g.EndsWith ts (.ref id, p) (.error (if m = 0 then failure else failure.toCut)) p := by
  induction h with
  | zero p => exact endsWith_chain_item_error hdef hitem
  | @succ m p q s v hends hok hd _ ih =>
    -- a cut further in is a cut here
    have htail := endsWith_tail_error (k := k) hd (ih hitem)
    have hcut : (if m = 0 then failure else failure.toCut).toCut = failure.toCut := by
      split
      · rfl
      · exact failure.toCut_toCut
    rw [hcut] at htail
    exact endsWith_chain_tail_error hdef ⟨s, hends, hok, rfl⟩ htail

theorem endsWith_chain_of_separated (hitem : g.Composed item)
    (h : Separated (g.Matches ts item) ts delimiter p vs q) (hstop : ¬KindAt ts q delimiter)
    (hp : p ≤ ts.length) : g.EndsWith ts (.ref id, p) (.ok (k.wrap vs)) q := by
  induction h with
  | @last p q v hv =>
    have hq : q ≤ ts.length := by
      obtain ⟨s, hs, ho, rfl⟩ := hv
      have hbounds := hs.bounds hitem ho
      grind
    exact endsWith_chain_ok hdef hv (endsWith_tail_of_not hstop hq)
  | more hv hd _ ih =>
    have hrest := ih hstop hd.lt
    exact endsWith_chain_ok hdef hv (endsWith_tail_ok hd hrest)

theorem Lists.endsWith_chain (hitem : g.Composed item) {result : Except Failure (List ν)}
    (h : g.Lists ts item delimiter p result q) (hp : p ≤ ts.length) :
    g.EndsWith ts (.ref id, p) (result.map k.wrap) q := by
  cases h with
  | items hsep hstop => exact endsWith_chain_of_separated hdef hitem hsep hstop hp
  | first hf => exact endsWith_chain_item_error hdef hf
  | later hrounds hf => exact hrounds.endsWith_chain hdef hf

end

/-- If the recursive rule ends, something comes of the list: the rule has run all that the loop
runs. -/
theorem exists_lists_of_chain (hitem : g.Composed item)
    (hdef : g.definition? id = some (k.chain item delimiter (.ref id)))
    (hends : ∃ s, g.Ends ts (.ref id, p) s) :
    ∃ result q, g.Lists ts item delimiter p result q := by
  have hcalled {c d : Call κ ν} (hcall : g.Calls ts c d) (hc : ∃ s, g.Ends ts c s) :
      ∃ t, g.Ends ts d t := by
    obtain ⟨s, hs⟩ := hc
    exact exists_ends_of_calls (.single hcall) hs
  refine exists_lists hitem (fun p => ∃ s, g.Ends ts (.ref id, p) s) ?_ ?_ hends
  · intro p hends
    have hchain := hcalled (.ref p hdef) hends
    exact hcalled (.part k.push (.nil p)) hchain
  · rintro p v _ hends ⟨t, ht, ho, rfl⟩ hd
    have hchain := hcalled (.ref p hdef) hends
    have htail := hcalled (.part k.push (.cons ht ho (.nil _))) hchain
    have hmore := hcalled (.alternative (List.forall_mem_nil _)) htail
    obtain ⟨u, s, hs, hmark, hcursor⟩ := exists_matches_mark (g := g) k hd
    have hpass : g.Passes ts [_] t.cursor (t.cursor + 1) := .cons hs hmark (hcursor ▸ .nil _)
    have hcut := hcalled (.part k.drop hpass) hmore
    exact hcalled (.cut _ _) hcut

/-- A list and the recursive rule that it abbreviates end alike from every cursor that is not beyond
the tokens, and from the same cursors. They end in the ways given for lists: with the values of the
items in order and behind the last of them, or with a failure and without having moved, the failure
of the first item as it is and that of a later one as a cut. -/
theorem list_iff_chain (hitem : g.Composed item)
    (hdef : g.definition? id = some (k.chain item delimiter (.ref id))) (hp : p ≤ ts.length) :
    (g.EndsWith ts (.list item delimiter k.wrap, p) o q ↔ g.EndsWith ts (.ref id, p) o q) ∧
      (g.EndsWith ts (.ref id, p) o q ↔
        ∃ result, g.Lists ts item delimiter p result q ∧ o = result.map k.wrap) := by
  have hchain : g.EndsWith ts (.ref id, p) o q ↔
      ∃ result, g.Lists ts item delimiter p result q ∧ o = result.map k.wrap := by
    constructor
    · intro h
      have hends : ∃ s, g.Ends ts (.ref id, p) s := h.imp fun _ hs => hs.1
      obtain ⟨result, r, hlists⟩ := exists_lists_of_chain hitem hdef hends
      obtain ⟨rfl, rfl⟩ := h.unique (hlists.endsWith_chain hdef hitem hp)
      exact ⟨result, hlists, rfl⟩
    · rintro ⟨result, hlists, rfl⟩
      exact hlists.endsWith_chain hdef hitem hp
  exact ⟨(endsWith_list_iff hitem).trans hchain.symm, hchain⟩

/-- Items that have the delimiter in them or cut by themselves: the third one is missing, and the
list fails with a cut where it began. -/
theorem list_iff_chain_missing_item :
    let mark : Char → Rule Char (List Nat) := fun kind => .token kind fun _ => .ok [kind.toNat]
    let item : Rule Char (List Nat) :=
      .choice [.sequence [mark 'a', mark ',', mark 'a'] fun vs => .ok vs.flatten, .cut (mark 'b')]
    let k : Collector Char (List Nat) :=
      ⟨List.flatten, fun _ => [], fun vs => .ok vs.flatten, fun vs => .ok vs.flatten,
        fun _ _ => by simp, fun _ _ => by simp⟩
    let g : Grammar Char (List Nat) := ⟨[some (k.chain item ',' (.ref 0))], .furthest⟩
    let ts : List (Token Char) := ['a', ',', 'a', ',', 'b', ',', 'x'].zipIdx.map fun (kind, i) =>
      ⟨kind, kind.toString, ⟨⟨0, i⟩, ⟨0, i + 1⟩⟩, i⟩
    let e : ParseError := ⟨.unmatched "x", some ⟨0, 6⟩, some ⟨6, 1⟩⟩
    g.Composed item ∧ g.definition? 0 = some (k.chain item ',' (.ref 0)) ∧ 0 ≤ ts.length ∧
      g.EndsWith ts (.list item ',' k.wrap, 0) (.error (.cut e)) 0 ∧
      g.EndsWith ts (.ref 0, 0) (.error (.cut e)) 0 ∧
      ∃ result, g.Lists ts item ',' 0 result 0 ∧ Except.error (.cut e) = result.map k.wrap := by
  intro mark item k g ts e
  have hitem : g.Composed item := composed_of_isPlain rfl rfl
  have hlist : g.EndsWith ts (.list item ',' k.wrap, 0) (.error (.cut e)) 0 :=
    ⟨_, ⟨4, rfl⟩, rfl, rfl⟩
  have hdef : g.definition? 0 = some (k.chain item ',' (.ref 0)) := rfl
  have hstart : 0 ≤ ts.length := Nat.zero_le _
  obtain ⟨hboth, hlists⟩ := list_iff_chain (q := 0) (o := .error (.cut e)) hitem hdef hstart
  have hchain := hboth.1 hlist
  exact ⟨hitem, hdef, hstart, hlist, hchain, hlists.1 hchain⟩

end Grammar

end Descent
