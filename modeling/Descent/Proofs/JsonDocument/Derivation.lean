import Descent.Language.JsonDocument

/-!
# Derivations of JSON documents

The grammar of JSON as it is written in books, over tokens:

* a document is an object or an array;
* a value is a string, a number, a word, an object or an array;
* an object is a pair of curly brackets with nothing or members inside, an array is a pair of square
  brackets with nothing or items inside;
* members are one member, or a member, a comma and members; a member is a string, a colon and a
  value;
* items are one value, or a value, a comma and items.

A `Derivation` is a tree of such steps. It denotes a value as soon as all strings and numbers in it
do, whatever they denote. Nothing in this module is about parsers.
-/

namespace Descent.JsonDocument

/-- What can be derived. -/
inductive Nonterminal where
  | document
  | value
  | object
  | array
  | member
  | members
  | items
deriving DecidableEq, Repr

/-- The kinds of tokens that are values by themselves. -/
def scalars : List Kind := [.string, .number, .true, .false, .null]

/-- Derivations of token lists. -/
inductive Derivation : Nonterminal → List (Token Kind) → Type
  | documentObject {ts : List (Token Kind)} (d : Derivation .object ts) : Derivation .document ts
  | documentArray {ts : List (Token Kind)} (d : Derivation .array ts) : Derivation .document ts
  | scalar (t : Token Kind) (h : t.kind ∈ scalars) : Derivation .value [t]
  | object {ts : List (Token Kind)} (d : Derivation .object ts) : Derivation .value ts
  | array {ts : List (Token Kind)} (d : Derivation .array ts) : Derivation .value ts
  | emptyObject (left right : Token Kind) (hleft : left.kind = .leftCurly)
      (hright : right.kind = .rightCurly) : Derivation .object [left, right]
  | fullObject (left right : Token Kind) (hleft : left.kind = .leftCurly)
      (hright : right.kind = .rightCurly) {ts : List (Token Kind)} (d : Derivation .members ts) :
    Derivation .object (left :: (ts ++ [right]))
  | emptyArray (left right : Token Kind) (hleft : left.kind = .leftSquare)
      (hright : right.kind = .rightSquare) : Derivation .array [left, right]
  | fullArray (left right : Token Kind) (hleft : left.kind = .leftSquare)
      (hright : right.kind = .rightSquare) {ts : List (Token Kind)} (d : Derivation .items ts) :
    Derivation .array (left :: (ts ++ [right]))
  | member (key colon : Token Kind) (hkey : key.kind = .string) (hcolon : colon.kind = .colon)
      {ts : List (Token Kind)} (d : Derivation .value ts) : Derivation .member (key :: colon :: ts)
  | lastMember {ts : List (Token Kind)} (d : Derivation .member ts) : Derivation .members ts
  | moreMembers (comma : Token Kind) (hcomma : comma.kind = .comma) {ts rest : List (Token Kind)}
      (d : Derivation .member ts) (more : Derivation .members rest) :
    Derivation .members (ts ++ comma :: rest)
  | lastItem {ts : List (Token Kind)} (d : Derivation .value ts) : Derivation .items ts
  | moreItems (comma : Token Kind) (hcomma : comma.kind = .comma) {ts rest : List (Token Kind)}
      (d : Derivation .value ts) (more : Derivation .items rest) :
    Derivation .items (ts ++ comma :: rest)

/-! ## Meaning -/

/-- What a derivation can denote. -/
abbrev Nonterminal.Denotation : Nonterminal → Type
  | .member => String × Value
  | .members => List (String × Value)
  | .items => List Value
  | _ => Value

namespace Meaning

/-- The string that a token stands for as a key. -/
def key? (m : Meaning) (t : Token Kind) : Option String := (m.string t.value).toOption

/-- The value that a token stands for by itself. -/
def scalar? (m : Meaning) (t : Token Kind) : Option Value :=
  match t.kind with
  | .string => (m.key? t).map Value.str
  | .number => (m.number t.value).toOption
  | .true => some (.bool Bool.true)
  | .false => some (.bool Bool.false)
  | .null => some .null
  | _ => none

/-- Whether the text of a token denotes something, if it has to. -/
def Accepts (m : Meaning) (t : Token Kind) : Prop :=
  (t.kind = .string → ∃ s, m.string t.value = .ok s) ∧
    (t.kind = .number → ∃ v, m.number t.value = .ok v)

/-- A token that is neither a string nor a number need not denote anything. -/
theorem accepts_of_kind (m : Meaning) {t : Token Kind} {k : Kind} (h : t.kind = k)
    (hk : k ≠ .string ∧ k ≠ .number) : m.Accepts t :=
  ⟨fun hstring => absurd (h.symm.trans hstring) hk.1,
    fun hnumber => absurd (h.symm.trans hnumber) hk.2⟩

variable {m : Meaning} {t : Token Kind}

theorem toOption_eq_some_iff {α : Type} {x : Except String α} {a : α} :
    x.toOption = some a ↔ x = .ok a := by
  cases x <;> simp [Except.toOption]

theorem isSome_toOption_iff {α : Type} (x : Except String α) :
    x.toOption.isSome ↔ ∃ a, x = .ok a := by
  cases x <;> simp [Except.toOption]

theorem isSome_key?_iff (h : t.kind = .string) : (m.key? t).isSome ↔ m.Accepts t := by
  rw [key?, isSome_toOption_iff, Accepts, h]
  simp

theorem isSome_scalar?_iff (h : t.kind ∈ scalars) : (m.scalar? t).isSome ↔ m.Accepts t := by
  unfold scalar?
  split
  · next hkind => rw [Option.isSome_map, isSome_key?_iff hkind]
  · next hkind =>
    rw [isSome_toOption_iff, Accepts, hkind]
    simp
  · next hkind => exact iff_of_true rfl (m.accepts_of_kind hkind (by decide))
  · next hkind => exact iff_of_true rfl (m.accepts_of_kind hkind (by decide))
  · next hkind => exact iff_of_true rfl (m.accepts_of_kind hkind (by decide))
  · next hstring hnumber htrue hfalse hnull =>
    have hnone : t.kind ∉ scalars := by
      simp only [scalars, List.mem_cons, List.not_mem_nil, or_false, not_or]
      exact ⟨hstring, hnumber, htrue, hfalse, hnull⟩
    exact absurd h hnone

end Meaning

namespace Derivation

/-- The value that a derivation denotes: items and members in order, the members made into an
object. -/
def value? (m : Meaning) : {n : Nonterminal} → {ts : List (Token Kind)} → Derivation n ts →
    Option n.Denotation
  | _, _, documentObject d => d.value? m
  | _, _, documentArray d => d.value? m
  | _, _, scalar t _ => m.scalar? t
  | _, _, object d => d.value? m
  | _, _, array d => d.value? m
  | _, _, emptyObject .. => some (Value.ofMembers [])
  | _, _, fullObject _ _ _ _ d => (d.value? m).map Value.ofMembers
  | _, _, emptyArray .. => some (Value.arr [])
  | _, _, fullArray _ _ _ _ d => (d.value? m).map Value.arr
  | _, _, member key _ _ _ d => (m.key? key).bind fun k => (d.value? m).map fun v => (k, v)
  | _, _, lastMember d => (d.value? m).map fun kv => [kv]
  | _, _, moreMembers _ _ d more =>
    (d.value? m).bind fun kv => (more.value? m).map fun kvs => kv :: kvs
  | _, _, lastItem d => (d.value? m).map fun v => [v]
  | _, _, moreItems _ _ d more => (d.value? m).bind fun v => (more.value? m).map fun vs => v :: vs

variable {m : Meaning} {n : Nonterminal} {ts rest : List (Token Kind)}
  {left right comma : Token Kind}

@[simp] theorem value?_fullObject (hleft : left.kind = .leftCurly)
    (hright : right.kind = .rightCurly) (d : Derivation .members ts) :
    (fullObject left right hleft hright d).value? m = (d.value? m).map Value.ofMembers := rfl

@[simp] theorem value?_fullArray (hleft : left.kind = .leftSquare)
    (hright : right.kind = .rightSquare) (d : Derivation .items ts) :
    (fullArray left right hleft hright d).value? m = (d.value? m).map Value.arr := rfl

@[simp] theorem value?_member {key colon : Token Kind} (hkey : key.kind = .string)
    (hcolon : colon.kind = .colon) (d : Derivation .value ts) :
    (member key colon hkey hcolon d).value? m
      = (m.key? key).bind fun k => (d.value? m).map fun v => (k, v) := rfl

@[simp] theorem value?_lastMember (d : Derivation .member ts) :
    (lastMember d).value? m = (d.value? m).map fun kv => [kv] := rfl

@[simp] theorem value?_moreMembers (hcomma : comma.kind = .comma) (d : Derivation .member ts)
    (more : Derivation .members rest) :
    (moreMembers comma hcomma d more).value? m
      = (d.value? m).bind fun kv => (more.value? m).map fun kvs => kv :: kvs := rfl

@[simp] theorem value?_lastItem (d : Derivation .value ts) :
    (lastItem d).value? m = (d.value? m).map fun v => [v] := rfl

@[simp] theorem value?_moreItems (hcomma : comma.kind = .comma) (d : Derivation .value ts)
    (more : Derivation .items rest) :
    (moreItems comma hcomma d more).value? m
      = (d.value? m).bind fun v => (more.value? m).map fun vs => v :: vs := rfl

/-- Nothing is derived without tokens. -/
theorem ne_nil (d : Derivation n ts) : ts ≠ [] := by
  induction d with
  | documentObject d ih | documentArray d ih | object d ih | array d ih => exact ih
  | lastMember d ih | lastItem d ih => exact ih
  | moreMembers comma hcomma d more ih _ | moreItems comma hcomma d more ih _ =>
    exact List.append_ne_nil_of_left_ne_nil ih _
  | scalar | emptyObject | fullObject | emptyArray | fullArray | member =>
    exact List.cons_ne_nil _ _

/-- A derivation denotes a value just if all its strings and numbers denote something. -/
theorem isSome_value?_iff (d : Derivation n ts) :
    (d.value? m).isSome ↔ ∀ t ∈ ts, m.Accepts t := by
  induction d with
  | documentObject d ih | documentArray d ih | object d ih | array d ih => exact ih
  | scalar t h => rw [List.forall_mem_singleton]; exact Meaning.isSome_scalar?_iff h
  -- brackets, colons and commas are accepted whatever the meaning is
  | emptyObject left right hleft hright | emptyArray left right hleft hright =>
    have hl := m.accepts_of_kind hleft (by decide)
    have hr := m.accepts_of_kind hright (by decide)
    exact iff_of_true rfl (List.forall_mem_cons.2 ⟨hl, List.forall_mem_singleton.2 hr⟩)
  | fullObject left right hleft hright d ih | fullArray left right hleft hright d ih =>
    have hl := m.accepts_of_kind hleft (by decide)
    have hr := m.accepts_of_kind hright (by decide)
    simp only [value?_fullObject, value?_fullArray, Option.isSome_map, ih]
    rw [List.forall_mem_cons, List.forall_mem_append, List.forall_mem_singleton]
    exact ⟨fun h => ⟨hl, h, hr⟩, fun h => h.2.1⟩
  | member key colon hkey hcolon d ih =>
    have hc := m.accepts_of_kind hcolon (by decide)
    rw [List.forall_mem_cons, List.forall_mem_cons, ← ih, ← Meaning.isSome_key?_iff hkey]
    cases hk : m.key? key <;> cases hv : d.value? m <;> simp [hk, hv, hc]
  | lastMember d ih | lastItem d ih =>
    simp only [value?_lastMember, value?_lastItem, Option.isSome_map, ih]
  | moreMembers comma hcomma d more ih ihmore | moreItems comma hcomma d more ih ihmore =>
    have hc := m.accepts_of_kind hcomma (by decide)
    rw [List.forall_mem_append, List.forall_mem_cons, ← ih, ← ihmore]
    cases hv : d.value? m <;> cases hvs : more.value? m <;> simp [hv, hvs, hc]

end Derivation

end Descent.JsonDocument
