import Descent.Rule.Basic

/-!
# Rule graphs

A rule and the definitions of its grammar make up a graph: an edge leads from a rule to each of its
parts, and from a reference to what it refers to. The graph may have cycles. `Grammar.Occurs` says
which rules stand in the graph of a rule, and `Grammar.Composed` that no raw rule does, so that all
of it is made by the combinators.

A rule is composed if no raw rule is written down anywhere in it or in the definitions
(`Grammar.composed_of_isPlain`); this can be computed.
-/

namespace Descent

namespace Rule

variable {κ ν : Type}

mutual

/-- Whether no raw rule is written down in a rule. -/
def isPlain : Rule κ ν → Bool
  | tokens _ _ => true
  | sequence parts _ => arePlain parts
  | choice alternatives => arePlain alternatives
  | optional body _ => body.isPlain
  | lookahead body => body.isPlain
  | list item _ _ => item.isPlain
  | cut body => body.isPlain
  | label _ body => body.isPlain
  | map _ body => body.isPlain
  | ref _ => true
  | raw _ => false

def arePlain : List (Rule κ ν) → Bool
  | [] => true
  | rule :: rest => rule.isPlain && arePlain rest

end

theorem isPlain_of_mem {rules : List (Rule κ ν)} (h : arePlain rules = true) :
    ∀ rule ∈ rules, rule.isPlain = true := by
  induction rules with
  | nil => nofun
  | cons rule rest ih =>
    rw [arePlain, Bool.and_eq_true] at h
    exact List.forall_mem_cons.2 ⟨h.1, ih h.2⟩

end Rule

namespace Grammar

variable {κ ν : Type} {g : Grammar κ ν} {rule : Rule κ ν}

/-- The rules that an edge leads to. -/
def parts (g : Grammar κ ν) : Rule κ ν → List (Rule κ ν)
  | .tokens _ _ | .raw _ => []
  | .sequence parts _ => parts
  | .choice alternatives => alternatives
  | .optional body _ | .lookahead body | .list body _ _ | .cut body | .label _ body
  | .map _ body => [body]
  | .ref id => (g.definition? id).toList

theorem mem_parts_ref {id : Nat} {body : Rule κ ν} (h : g.definition? id = some body) :
    body ∈ g.parts (.ref id) := by
  rw [parts, h]
  exact List.mem_singleton_self body

/-- Whether a second rule stands in the graph of a first one. -/
inductive Occurs (g : Grammar κ ν) : Rule κ ν → Rule κ ν → Prop
  | self (rule : Rule κ ν) : Occurs g rule rule
  | part {rule part leaf : Rule κ ν} : part ∈ g.parts rule → Occurs g part leaf →
    Occurs g rule leaf

theorem Occurs.trans {node leaf : Rule κ ν} (h : g.Occurs rule node) (hleaf : g.Occurs node leaf) :
    g.Occurs rule leaf := by
  induction h with
  | self _ => exact hleaf
  | part hpart _ ih => exact .part hpart (ih hleaf)

/-- Whether no raw rule stands in the graph of a rule. -/
def Composed (g : Grammar κ ν) (rule : Rule κ ν) : Prop :=
  ∀ consume, ¬g.Occurs rule (.raw consume)

namespace Composed

theorem of_mem {part : Rule κ ν} (h : g.Composed rule) (hpart : part ∈ g.parts rule) :
    g.Composed part :=
  fun consume hoccurs => h consume (.part hpart hoccurs)

theorem of_occurs {node : Rule κ ν} (h : g.Composed rule) (hnode : g.Occurs rule node) :
    g.Composed node :=
  fun consume hoccurs => h consume (hnode.trans hoccurs)

theorem ne_raw (h : g.Composed rule) (consume : List (Token κ) → Cursor → Step κ ν) :
    rule ≠ .raw consume := by
  rintro rfl
  exact h consume (.self _)

end Composed

/-! ## Rules without raw rules in them -/

/-- Whether no raw rule is written down in any definition. -/
def isPlain (g : Grammar κ ν) : Bool := Rule.arePlain (g.definitions.filterMap id)

theorem isPlain_definition? (hg : g.isPlain = true) {id : Nat} (h : g.definition? id = some rule) :
    rule.isPlain = true := by
  have hentry : g.definitions[id]? = some (some rule) := Option.join_eq_some_iff.1 h
  have hmem : rule ∈ g.definitions.filterMap (fun entry => entry) :=
    List.mem_filterMap.2 ⟨some rule, List.mem_of_getElem? hentry, rfl⟩
  exact Rule.isPlain_of_mem hg rule hmem

theorem isPlain_of_mem_parts (hg : g.isPlain = true) (hrule : rule.isPlain = true)
    {part : Rule κ ν} (hpart : part ∈ g.parts rule) : part.isPlain = true := by
  cases rule with
  | tokens kinds build => nomatch hpart
  | sequence parts build => exact Rule.isPlain_of_mem hrule part hpart
  | choice alternatives => exact Rule.isPlain_of_mem hrule part hpart
  | optional body wrap => exact List.mem_singleton.1 hpart ▸ hrule
  | lookahead body => exact List.mem_singleton.1 hpart ▸ hrule
  | list item delimiter wrap => exact List.mem_singleton.1 hpart ▸ hrule
  | cut body => exact List.mem_singleton.1 hpart ▸ hrule
  | label name body => exact List.mem_singleton.1 hpart ▸ hrule
  | map f body => exact List.mem_singleton.1 hpart ▸ hrule
  | ref id => exact isPlain_definition? hg (Option.mem_toList.1 hpart)
  | raw consume => nomatch hpart

theorem isPlain_of_occurs (hg : g.isPlain = true) {leaf : Rule κ ν} (h : g.Occurs rule leaf)
    (hrule : rule.isPlain = true) : leaf.isPlain = true := by
  induction h with
  | self rule => exact hrule
  | part hpart _ ih => exact ih (isPlain_of_mem_parts hg hrule hpart)

/-- A rule is composed if no raw rule is written down in it or in the definitions. -/
theorem composed_of_isPlain (hg : g.isPlain = true) (hrule : rule.isPlain = true) :
    g.Composed rule := by
  intro consume hoccurs
  have hraw : (Rule.raw consume).isPlain = true := isPlain_of_occurs hg hoccurs hrule
  rw [Rule.isPlain] at hraw
  nomatch hraw

end Grammar

end Descent
