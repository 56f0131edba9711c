import Descent.Proofs.Rule.Circles

/-!
# Grammars without left recursion

A rule calls another in place if no token needs to be taken before: the first parts of a sequence
up to the first that is sure to take one, the alternatives of a choice, the item of a list, and the
rule inside any other (`Grammar.InPlace`). A grammar is left-recursive if a rule leads to itself in
this way. If none does, every run ends: a call that is not made in place is made further on, so a
run that came round at one cursor would be a cycle of calls in place (`Grammar.consume_ends`).

Nothing is asked of items that match nothing: behind each there must be a delimiter, and there are
only so many of those.

How deep the calls in place nest can be computed once it is said how deep the references do
(`Rule.leftDepth`). If the definitions keep to what is said there is no left recursion
(`Grammar.not_inPlace_self`).
-/

namespace Descent

namespace Rule

variable {κ ν : Type}

mutual

/-- Whether a rule is seen to take a token whenever it matches, with no definition looked up. -/
def takesToken : Rule κ ν → Bool
  | tokens kinds _ => !kinds.isEmpty
  | sequence parts _ => someTakesToken parts
  | choice alternatives => allTakeToken alternatives
  | list item _ _ => item.takesToken
  | cut body => body.takesToken
  | label _ body => body.takesToken
  | map _ body => body.takesToken
  | optional _ _ => false
  | lookahead _ => false
  | ref _ => false
  | raw _ => false

def someTakesToken : List (Rule κ ν) → Bool
  | [] => false
  | rule :: rest => rule.takesToken || someTakesToken rest

def allTakeToken : List (Rule κ ν) → Bool
  | [] => true
  | rule :: rest => rule.takesToken && allTakeToken rest

end

mutual

/-- How deep the rules nest that a rule runs before a token has been taken, if it is given how deep
the references do. -/
def leftDepth (depths : Nat → Nat) : Rule κ ν → Nat
  | tokens _ _ => 0
  | sequence parts _ => leftDepthInOrder depths parts + 1
  | choice alternatives => leftDepthOfAny depths alternatives + 1
  | optional body _ => body.leftDepth depths + 1
  | lookahead body => body.leftDepth depths + 1
  | list item _ _ => item.leftDepth depths + 1
  | cut body => body.leftDepth depths + 1
  | label _ body => body.leftDepth depths + 1
  | map _ body => body.leftDepth depths + 1
  | ref id => depths id
  | raw _ => 0

def leftDepthInOrder (depths : Nat → Nat) : List (Rule κ ν) → Nat
  | [] => 0
  | rule :: rest =>
    if rule.takesToken then rule.leftDepth depths
    else max (rule.leftDepth depths) (leftDepthInOrder depths rest)

def leftDepthOfAny (depths : Nat → Nat) : List (Rule κ ν) → Nat
  | [] => 0
  | rule :: rest => max (rule.leftDepth depths) (leftDepthOfAny depths rest)

end

end Rule

namespace Grammar

variable {κ ν : Type} {g : Grammar κ ν} {rule : Rule κ ν}

/-! ## Rules that take a token -/

/-- Whether a rule takes a token whenever it matches, as far as its shape tells. -/
inductive Consuming (g : Grammar κ ν) : Rule κ ν → Prop
  | tokens {kinds : List κ} (build : List (Token κ) → Except String ν) :
    kinds ≠ [] → Consuming g (.tokens kinds build)
  | sequence {parts : List (Rule κ ν)} {part : Rule κ ν} (build : List ν → Except String ν) :
    part ∈ parts → Consuming g part → Consuming g (.sequence parts build)
  | choice {alternatives : List (Rule κ ν)} :
    (∀ alternative ∈ alternatives, Consuming g alternative) → Consuming g (.choice alternatives)
  | list {item : Rule κ ν} (delimiter : κ) (wrap : List ν → ν) :
    Consuming g item → Consuming g (.list item delimiter wrap)
  | cut {body : Rule κ ν} : Consuming g body → Consuming g (.cut body)
  | label {body : Rule κ ν} (name : String) : Consuming g body → Consuming g (.label name body)
  | map {body : Rule κ ν} (f : ν → ν) : Consuming g body → Consuming g (.map f body)
  | ref {id : Nat} {body : Rule κ ν} :
    g.definition? id = some body → Consuming g body → Consuming g (.ref id)

/-- The empty word is not derived from a rule that takes a token. -/
theorem Consuming.ne_nil (h : g.Consuming rule) {word : List κ} (hword : g.Derives rule word) :
    word ≠ [] := by
  induction h generalizing word with
  | tokens build hkinds =>
    cases hword with
    | tokens => exact hkinds
  | sequence build hpart _ ih =>
    cases hword with
    | @sequence parts words _ hwords =>
      -- the part stands somewhere, and at the same place its word
      obtain ⟨i, hi, rfl⟩ := List.getElem_of_mem hpart
      have hi' : i < words.length := hwords.length_eq ▸ hi
      have hne : words[i] ≠ [] := ih (hwords.get hi hi')
      intro hnil
      exact hne (List.flatten_eq_nil_iff.1 hnil _ (List.getElem_mem hi'))
  | choice _ ih =>
    cases hword with
    | choice ha hderives => exact ih _ ha hderives
  | list delimiter wrap _ ih =>
    cases hword with
    | @list _ words _ _ hne hwords =>
      obtain ⟨w, rest, rfl⟩ := List.exists_cons_of_ne_nil hne
      have hw : w ≠ [] := ih (hwords w List.mem_cons_self)
      cases rest with
      | nil => rwa [List.intercalate_singleton]
      | cons w' rest =>
        rw [List.intercalate_cons_of_ne_nil (List.cons_ne_nil w' rest), List.append_assoc]
        exact List.append_ne_nil_of_left_ne_nil hw _
  | cut _ ih =>
    cases hword with
    | cut hderives => exact ih hderives
  | label name _ ih =>
    cases hword with
    | label _ hderives => exact ih hderives
  | map f _ ih =>
    cases hword with
    | map _ hderives => exact ih hderives
  | ref hd _ ih =>
    cases hword with
    | ref hd' hderives =>
      obtain rfl := Option.some.inj (hd.symm.trans hd')
      exact ih hderives

/-! ## Calls in place -/

/-- Whether a rule may call another before a token has been taken. -/
inductive InPlace (g : Grammar κ ν) : Rule κ ν → Rule κ ν → Prop
  | part {before after : List (Rule κ ν)} {part : Rule κ ν} (build : List ν → Except String ν) :
    (∀ earlier ∈ before, ¬g.Consuming earlier) →
      InPlace g (.sequence (before ++ part :: after) build) part
  | alternative {alternatives : List (Rule κ ν)} {alternative : Rule κ ν} :
    alternative ∈ alternatives → InPlace g (.choice alternatives) alternative
  | item (item : Rule κ ν) (delimiter : κ) (wrap : List ν → ν) :
    InPlace g (.list item delimiter wrap) item
  | optional (body : Rule κ ν) (wrap : Option ν → ν) : InPlace g (.optional body wrap) body
  | lookahead (body : Rule κ ν) : InPlace g (.lookahead body) body
  | cut (body : Rule κ ν) : InPlace g (.cut body) body
  | label (name : String) (body : Rule κ ν) : InPlace g (.label name body) body
  | map (f : ν → ν) (body : Rule κ ν) : InPlace g (.map f body) body
  | ref {id : Nat} {body : Rule κ ν} : g.definition? id = some body → InPlace g (.ref id) body

section

variable [DecidableEq κ] {ts : List (Token κ)} {p q : Cursor} {c d : Call κ ν}

/-- What takes a token has moved when it matches. -/
theorem Consuming.lt_cursor (h : g.Consuming c.1) (hrule : g.Composed c.1) {s : Step κ ν} {v : ν}
    (hs : g.Ends ts c s) (hok : s.outcome = .ok v) : c.2 < s.cursor := by
  obtain ⟨fuel, hs⟩ := hs
  obtain ⟨taken, hstretch, hword⟩ := takes_run fuel hrule ts c.2 s v hs hok
  have hne : taken ≠ [] := mt List.map_eq_nil_iff.2 (h.ne_nil hword)
  rw [hstretch.eq_add]
  exact Nat.lt_add_of_pos_right (List.length_pos_of_ne_nil hne)

theorem Passes.lt_of_consuming {parts : List (Rule κ ν)} (h : g.Passes ts parts p q)
    (hparts : ∀ part ∈ parts, g.Composed part) {part : Rule κ ν} (hpart : part ∈ parts)
    (hconsuming : g.Consuming part) : p < q := by
  induction h with
  | nil p => nomatch hpart
  | cons hends hok hrest ih =>
    obtain ⟨hfirst, hbehind⟩ := List.forall_mem_cons.1 hparts
    obtain rfl | hpart := List.mem_cons.1 hpart
    · exact Nat.lt_of_lt_of_le (hconsuming.lt_cursor hfirst hends hok) (hrest.bounds hbehind).1
    · exact Nat.lt_of_le_of_lt (hends.bounds hfirst hok).1 (ih hbehind hpart)

/-- A call is made further on than its caller was, or at the same cursor and in place. -/
theorem Calls.lt_or_inPlace (h : g.Calls ts c d) (hrule : g.Composed c.1) :
    c.2 < d.2 ∨ c.2 = d.2 ∧ g.InPlace c.1 d.1 := by
  cases h with
  | @part before after part p q build hpass =>
    have hbefore : ∀ earlier ∈ before, g.Composed earlier := fun earlier hearlier =>
      hrule.of_mem (List.mem_append_left _ hearlier)
    by_cases hplace : ∀ earlier ∈ before, ¬g.Consuming earlier
    · -- the parts before may have taken tokens all the same
      obtain heq | hlt := Nat.eq_or_lt_of_le (hpass.bounds hbefore).1
      · exact Or.inr ⟨heq, .part build hplace⟩
      · exact Or.inl hlt
    · obtain ⟨earlier, hearlier, hconsuming⟩ : ∃ earlier ∈ before, g.Consuming earlier := by
        simpa only [not_forall, not_not, exists_prop] using hplace
      exact Or.inl (hpass.lt_of_consuming hbefore hearlier hconsuming)
  | alternative _ =>
    exact Or.inr ⟨rfl, .alternative (List.mem_append_right _ List.mem_cons_self)⟩
  | @item item delimiter m p q wrap hrounds =>
    cases hrounds with
    | zero => exact Or.inr ⟨rfl, .item item delimiter wrap⟩
    | @succ m _ _ s v hends hok hdelimiter hrounds =>
      -- a delimiter has been taken, if nothing else
      have hitem : g.Composed item := hrule.of_mem List.mem_cons_self
      have hround := (Rounds.succ hends hok hdelimiter hrounds).bounds hitem
      exact Or.inl (by grind)
  | optional body wrap p => exact Or.inr ⟨rfl, .optional body wrap⟩
  | lookahead body p => exact Or.inr ⟨rfl, .lookahead body⟩
  | cut body p => exact Or.inr ⟨rfl, .cut body⟩
  | label name body p => exact Or.inr ⟨rfl, .label name body⟩
  | map f body p => exact Or.inr ⟨rfl, .map f body⟩
  | ref p hd => exact Or.inr ⟨rfl, .ref hd⟩

/-- One call further on takes a whole chain of calls further on. -/
theorem lt_or_inPlace_of_calls (h : Relation.TransGen (g.Calls ts) c d) (hrule : g.Composed c.1) :
    c.2 < d.2 ∨ c.2 = d.2 ∧ Relation.TransGen g.InPlace c.1 d.1 := by
  induction h with
  | single hcall =>
    obtain hlt | ⟨heq, hplace⟩ := hcall.lt_or_inPlace hrule
    · exact Or.inl hlt
    · exact Or.inr ⟨heq, .single hplace⟩
  | tail hcalls hcall ih =>
    obtain hlt | ⟨heq, hplace⟩ := hcall.lt_or_inPlace (hrule.of_calls hcalls.to_reflTransGen)
    · obtain hfirst | ⟨hfirst, -⟩ := ih
      · exact Or.inl (Nat.lt_trans hfirst hlt)
      · exact Or.inl (hfirst ▸ hlt)
    · rw [← heq]
      obtain hfirst | ⟨hfirst, hchain⟩ := ih
      · exact Or.inl hfirst
      · exact Or.inr ⟨hfirst, hchain.tail hplace⟩

end

/-! ## The depth of calls in place -/

mutual

/-- What is seen to take a token takes one, whatever the references stand for. -/
theorem consuming_of_takesToken : (rule : Rule κ ν) → rule.takesToken = true → g.Consuming rule
  | .tokens [] _, h => nomatch h
  | .tokens (_ :: _) build, _ => .tokens build (List.cons_ne_nil _ _)
  | .sequence parts build, h => by
    obtain ⟨part, hpart, hconsuming⟩ := exists_consuming_of_takesToken parts h
    exact .sequence build hpart hconsuming
  | .choice alternatives, h => .choice (forall_consuming_of_takesToken alternatives h)
  | .list item delimiter wrap, h => .list delimiter wrap (consuming_of_takesToken item h)
  | .cut body, h => .cut (consuming_of_takesToken body h)
  | .label name body, h => .label name (consuming_of_takesToken body h)
  | .map f body, h => .map f (consuming_of_takesToken body h)
  | .optional _ _, h | .lookahead _, h | .ref _, h | .raw _, h => nomatch h

theorem exists_consuming_of_takesToken :
    (rules : List (Rule κ ν)) → Rule.someTakesToken rules = true →
      ∃ rule ∈ rules, g.Consuming rule
  | [], h => nomatch h
  | rule :: rest, h => by
    rw [Rule.someTakesToken, Bool.or_eq_true] at h
    obtain hrule | hrest := h
    · exact ⟨rule, List.mem_cons_self, consuming_of_takesToken rule hrule⟩
    · obtain ⟨other, hother, hconsuming⟩ := exists_consuming_of_takesToken rest hrest
      exact ⟨other, List.mem_cons_of_mem rule hother, hconsuming⟩

theorem forall_consuming_of_takesToken :
    (rules : List (Rule κ ν)) → Rule.allTakeToken rules = true → ∀ rule ∈ rules, g.Consuming rule
  | [], _ => nofun
  | rule :: rest, h => by
    rw [Rule.allTakeToken, Bool.and_eq_true] at h
    exact List.forall_mem_cons.2
      ⟨consuming_of_takesToken rule h.1, forall_consuming_of_takesToken rest h.2⟩

end

theorem leftDepth_le_inOrder (depths : Nat → Nat) {before after : List (Rule κ ν)}
    {part : Rule κ ν} (hbefore : ∀ earlier ∈ before, earlier.takesToken = false) :
    part.leftDepth depths ≤ Rule.leftDepthInOrder depths (before ++ part :: after) := by
  induction before with
  | nil =>
    rw [List.nil_append, Rule.leftDepthInOrder]
    split
    · exact Nat.le_refl _
    · exact Nat.le_max_left _ _
  | cons earlier before ih =>
    obtain ⟨hearlier, hbefore⟩ := List.forall_mem_cons.1 hbefore
    rw [List.cons_append, Rule.leftDepthInOrder, if_neg (by rw [hearlier]; nofun)]
    exact Nat.le_trans (ih hbefore) (Nat.le_max_right _ _)

theorem leftDepth_le_ofAny (depths : Nat → Nat) {alternatives : List (Rule κ ν)}
    {alternative : Rule κ ν} (h : alternative ∈ alternatives) :
    alternative.leftDepth depths ≤ Rule.leftDepthOfAny depths alternatives := by
  induction alternatives with
  | nil => nomatch h
  | cons first rest ih =>
    rw [Rule.leftDepthOfAny]
    obtain rfl | h := List.mem_cons.1 h
    · exact Nat.le_max_left _ _
    · exact Nat.le_trans (ih h) (Nat.le_max_right _ _)

/-- A call in place leads to a rule that nests less deep, if every definition nests less deep than
the references to it are said to. -/
theorem InPlace.leftDepth_lt {depths : Nat → Nat}
    (hdepths : ∀ id body, g.definition? id = some body → body.leftDepth depths < depths id)
    {node : Rule κ ν} (h : g.InPlace rule node) :
    node.leftDepth depths < rule.leftDepth depths := by
  cases h with
  | part build hbefore =>
    refine Nat.lt_succ_of_le (leftDepth_le_inOrder depths fun earlier hearlier => ?_)
    exact Bool.eq_false_iff.2 (mt (consuming_of_takesToken earlier) (hbefore earlier hearlier))
  | alternative h => exact Nat.lt_succ_of_le (leftDepth_le_ofAny depths h)
  | ref hd => exact hdepths _ _ hd
  | _ => exact Nat.lt_succ_self _

/-- So there is no left recursion in such a grammar. -/
theorem not_inPlace_self {depths : Nat → Nat}
    (hdepths : ∀ id body, g.definition? id = some body → body.leftDepth depths < depths id)
    (node : Rule κ ν) : ¬Relation.TransGen g.InPlace node node := by
  have hlt {node leaf : Rule κ ν} (h : Relation.TransGen g.InPlace node leaf) :
      leaf.leftDepth depths < node.leftDepth depths := by
    induction h with
    | single hplace => exact hplace.leftDepth_lt hdepths
    | tail _ hplace ih => exact Nat.lt_trans (hplace.leftDepth_lt hdepths) ih
  exact fun h => Nat.lt_irrefl _ (hlt h)

/-! ## Runs -/

variable [DecidableEq κ]

/-- In the graph of a composed rule in which no rule leads to itself in place, every rule comes to
an end on every token list and from every cursor. -/
theorem consume_ends (hrule : g.Composed rule)
    (hloop : ∀ node, g.Occurs rule node → ¬Relation.TransGen g.InPlace node node)
    {node : Rule κ ν} (hnode : g.Occurs rule node) (ts : List (Token κ)) (p : Cursor) :
    ∃ s, g.consume node ts p = some s := by
  have hcomposed : g.Composed node := hrule.of_occurs hnode
  refine (exists_consume_iff hcomposed).2 ?_
  rintro ⟨d, hcalls, hround⟩
  obtain hlt | ⟨-, hcycle⟩ := lt_or_inPlace_of_calls hround (hcomposed.of_calls hcalls)
  · exact Nat.lt_irrefl _ hlt
  · exact hloop d.1 (hnode.trans (occurs_of_calls hcalls)) hcycle

/-- Brackets with any number of brackets or nothing between them: a list that refers back to what it
stands in, and the items of which may match nothing. -/
theorem consume_ends_items :
    let mark : Char → Rule Char Nat := fun kind => .token kind fun _ => .ok 0
    let items : Rule Char Nat := .list (.optional (.ref 0) fun _ => 0) ',' List.length
    let g : Grammar Char Nat :=
      ⟨[some (.named "brackets" (.sequence [mark '[', items, mark ']'] fun _ => .ok 0))], .entry⟩
    let ts : List (Token Char) := [',', '[', ',', ']', ','].map fun kind =>
      ⟨kind, kind.toString, ⟨.start, .start⟩, 0⟩
    g.Composed (.ref 0) ∧
      (∀ node, g.Occurs (.ref 0) node → ¬Relation.TransGen g.InPlace node node) ∧
      g.Occurs (.ref 0) items ∧ ∃ s, g.consume items ts 0 = some s := by
  intro mark items g ts
  have hrule : g.Composed (.ref 0) := composed_of_isPlain rfl rfl
  have hdepths : ∀ id body, g.definition? id = some body →
      body.leftDepth (fun _ => 3) < 3 := by
    rintro (_ | id) body hd
    · obtain rfl := Option.some.inj hd
      decide
    · nomatch hd
  have hloop : ∀ node, g.Occurs (.ref 0) node → ¬Relation.TransGen g.InPlace node node :=
    fun node _ => not_inPlace_self hdepths node
  have hitems : g.Occurs (.ref 0) items :=
    .part (List.mem_singleton_self _) <| .part (List.mem_singleton_self _) <|
      .part (List.mem_cons_of_mem _ List.mem_cons_self) (.self items)
  exact ⟨hrule, hloop, hitems, consume_ends hrule hloop hitems ts 0⟩

end Grammar

end Descent
