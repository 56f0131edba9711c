import Descent.Rule.Fuel

/-!
# Runs that end alike

Two runs end alike if they end at the same cursor with the same value or with failures of the same
kind, whose errors are related in some way. A rule looks at the cursors, the values and the kinds of
failures of its parts, so parts that end alike make a whole that does: no combinator needs more of
the relation between the errors than that every error is related to itself. Two combinators look
closer and are left out here, choices, which compare errors, and names, which replace them.

A consumer follows another one if it ends wherever that one does, and alike (`Consumer.Follows`). It
may end more often, so the two need not have equal fuel. Nor need they run over the same tokens, as
long as these have the same kinds (`Consumer.FollowsOver`).
-/

namespace Descent

variable {κ α β γ : Type}

/-! ## Ends -/

/-- Whether two outcomes are the same value, or failures of the same kind whose errors are related
in some way. -/
inductive Alike (Rel : ParseError → ParseError → Prop) : Except Failure α → Except Failure α → Prop
  | ok (value : α) : Alike Rel (.ok value) (.ok value)
  | backtrack {e other : ParseError} (h : Rel e other) :
    Alike Rel (.error (.backtrack e)) (.error (.backtrack other))
  | cut {e other : ParseError} (h : Rel e other) :
    Alike Rel (.error (.cut e)) (.error (.cut other))

namespace Alike

variable {Rel Rel' Rel'' : ParseError → ParseError → Prop} {o o' o'' : Except Failure α}

theorem imp (himp : ∀ e other, Rel e other → Rel' e other) (h : Alike Rel o o') :
    Alike Rel' o o' := by
  cases h with
  | ok value => exact .ok value
  | backtrack h => exact .backtrack (himp _ _ h)
  | cut h => exact .cut (himp _ _ h)

theorem refl (hrefl : ∀ e, Rel e e) (o : Except Failure α) : Alike Rel o o := by
  cases o with
  | ok value => exact .ok value
  | error failure =>
    cases failure with
    | backtrack e => exact .backtrack (hrefl e)
    | cut e => exact .cut (hrefl e)

theorem symm (h : Alike Rel o o') : Alike (fun e other => Rel other e) o' o := by
  cases h with
  | ok value => exact .ok value
  | backtrack h => exact .backtrack h
  | cut h => exact .cut h

theorem trans (htrans : ∀ e e' e'', Rel e e' → Rel' e' e'' → Rel'' e e'') (h : Alike Rel o o')
    (h' : Alike Rel' o' o'') : Alike Rel'' o o'' := by
  cases h with
  | ok value =>
    cases h'
    exact .ok value
  | backtrack he =>
    cases h' with
    | backtrack he' => exact .backtrack (htrans _ _ _ he he')
  | cut he =>
    cases h' with
    | cut he' => exact .cut (htrans _ _ _ he he')

theorem map (f : α → β) (h : Alike Rel o o') : Alike Rel (o.map f) (o'.map f) := by
  cases h with
  | ok value => exact .ok (f value)
  | backtrack h => exact .backtrack h
  | cut h => exact .cut h

theorem toCut (h : Alike Rel o o') :
    Alike Rel (o.mapError Failure.toCut) (o'.mapError Failure.toCut) := by
  cases h with
  | ok value => exact .ok value
  | backtrack h => exact .cut h
  | cut h => exact .cut h

theorem toBacktrack (h : Alike Rel o o') :
    Alike Rel (o.mapError Failure.toBacktrack) (o'.mapError Failure.toBacktrack) := by
  cases h with
  | ok value => exact .ok value
  | backtrack h => exact .backtrack h
  | cut h => exact .backtrack h

end Alike

/-- Whether two runs end at the same cursor and alike. -/
def Step.EndsAlike (Rel : ParseError → ParseError → Prop) (s t : Step κ α) : Prop :=
  s.cursor = t.cursor ∧ Alike Rel s.outcome t.outcome

/-! ## Runs -/

/-- Whether something is there if something else is, and related to it. -/
def Leads (R : α → β → Prop) (x : Option α) (y : Option β) : Prop :=
  ∀ a, x = some a → ∃ b, y = some b ∧ R a b

namespace Leads

variable {δ : Type} {R : α → β → Prop} {S : γ → δ → Prop} {x : Option α} {y : Option β}

theorem ends {a : α} {b : β} (h : R a b) : Leads R (some a) (some b) := by
  intro a' ha
  obtain rfl := Option.some.inj ha
  exact ⟨b, rfl, h⟩

theorem of_rel (h : Option.Rel R x y) : Leads R x y := by
  cases h with
  | none => exact nofun
  | some hab => exact .ends hab

theorem rel (h : Leads R x y) {R' : β → α → Prop} (h' : Leads R' y x) : Option.Rel R x y := by
  cases x with
  | some a =>
    obtain ⟨b, rfl, hab⟩ := h a rfl
    exact .some hab
  | none =>
    cases y with
    | none => exact .none
    | some b =>
      obtain ⟨a, ha, -⟩ := h' b rfl
      nomatch ha

theorem map {f : α → γ} {g : β → δ} (h : Leads R x y) (hfg : ∀ a b, R a b → S (f a) (g b)) :
    Leads S (x.map f) (y.map g) := by
  intro _ hx
  obtain ⟨a, ha, rfl⟩ := Option.map_eq_some_iff.1 hx
  obtain ⟨b, rfl, hab⟩ := h a ha
  exact ⟨g b, rfl, hfg a b hab⟩

theorem bind {f : α → Option γ} {g : β → Option δ} (h : Leads R x y)
    (hfg : ∀ a b, R a b → Leads S (f a) (g b)) : Leads S (x.bind f) (y.bind g) := by
  intro c hx
  obtain ⟨a, ha, hc⟩ := Option.bind_eq_some_iff.1 hx
  obtain ⟨b, rfl, hab⟩ := h a ha
  exact hfg a b hab c hc

end Leads

namespace Consumer

/-- Whether a second consumer ends over some tokens wherever a first one does over others, and
alike. -/
def FollowsOver (Rel : ParseError → ParseError → Prop) (ts ts' : List (Token κ))
    (c d : Consumer κ α) : Prop :=
  ∀ p, Leads (Step.EndsAlike Rel) (c ts p) (d ts' p)

namespace FollowsOver

variable {Rel : ParseError → ParseError → Prop} {ts ts' : List (Token κ)} {c d : Consumer κ α}

theorem inOrder {f g : γ → Consumer κ α} {xs : List γ}
    (h : ∀ x ∈ xs, FollowsOver Rel ts ts' (f x) (g x)) :
    FollowsOver Rel ts ts' (Consumer.inOrder (xs.map f)) (Consumer.inOrder (xs.map g)) := by
  induction xs with
  | nil => exact fun p => .ends ⟨rfl, .ok []⟩
  | cons x xs ih =>
    obtain ⟨hx, hxs⟩ := List.forall_mem_cons.1 h
    intro p
    refine (hx p).bind ?_
    rintro ⟨o, q, _⟩ ⟨o', _, _⟩ ⟨rfl, halike⟩
    cases halike with
    | backtrack he => exact .ends ⟨rfl, .backtrack he⟩
    | cut he => exact .ends ⟨rfl, .cut he⟩
    | ok value =>
      -- both go on from the same cursor
      refine (ih hxs q).map ?_
      rintro s t ⟨hcursor, hrest⟩
      exact ⟨hcursor, hrest.map _⟩

/-- A value that is refused is an error of the sequence itself. -/
theorem sequence {parts others : List (Consumer κ α)} (build : List α → Except String β)
    (hcustom : ∀ message (q : Cursor),
      Rel (.located (.custom message) ts[q]?) (.located (.custom message) ts'[q]?))
    (h : FollowsOver Rel ts ts' (Consumer.inOrder parts) (Consumer.inOrder others)) :
    FollowsOver Rel ts ts' (Consumer.sequence parts build) (Consumer.sequence others build) := by
  intro p
  refine (h p).map ?_
  rintro ⟨o, q, _⟩ ⟨o', _, _⟩ ⟨rfl, halike⟩
  cases halike with
  | backtrack he => exact ⟨rfl, .backtrack he⟩
  | cut he => exact ⟨rfl, .cut he⟩
  | ok values =>
    cases hb : build values with
    | ok value =>
      simp only [hb]
      exact ⟨rfl, .ok value⟩
    | error message =>
      simp only [hb]
      exact ⟨rfl, .backtrack (hcustom message q)⟩

theorem optional (h : FollowsOver Rel ts ts' c d) :
    FollowsOver Rel ts ts' (Consumer.optional c) (Consumer.optional d) := by
  intro p
  refine (h p).map ?_
  rintro ⟨o, q, _⟩ ⟨o', _, _⟩ ⟨rfl, halike⟩
  cases halike with
  | ok value => exact ⟨rfl, .ok (some value)⟩
  | backtrack _ => exact ⟨rfl, .ok none⟩
  | cut _ => exact ⟨rfl, .ok none⟩

theorem lookahead (h : FollowsOver Rel ts ts' c d) :
    FollowsOver Rel ts ts' (Consumer.lookahead c) (Consumer.lookahead d) := by
  intro p
  refine (h p).map ?_
  rintro s t ⟨-, halike⟩
  exact ⟨rfl, halike.toBacktrack⟩

theorem cut (h : FollowsOver Rel ts ts' c d) :
    FollowsOver Rel ts ts' (Consumer.cut c) (Consumer.cut d) := by
  intro p
  refine (h p).map ?_
  rintro s t ⟨hcursor, halike⟩
  exact ⟨hcursor, halike.toCut⟩

theorem map (f : α → β) (h : FollowsOver Rel ts ts' c d) :
    FollowsOver Rel ts ts' (Consumer.map f c) (Consumer.map f d) := by
  intro p
  refine (h p).map ?_
  rintro s t ⟨hcursor, halike⟩
  exact ⟨hcursor, halike.map f⟩

variable [DecidableEq κ] (hkinds : ts.map (·.kind) = ts'.map (·.kind))

include hkinds

/-- A list looks at the kinds of tokens for its delimiters. -/
theorem itemsFrom (h : FollowsOver Rel ts ts' c d) (delimiter : κ) (fuel count : Nat) (p : Cursor) :
    Leads (Step.EndsAlike Rel) (Consumer.itemsFrom c delimiter ts fuel count p)
      (Consumer.itemsFrom d delimiter ts' fuel count p) := by
  have hdelimiter (q : Cursor) : ((ts[q]?).any fun token => token.kind = delimiter)
      = (ts'[q]?).any fun token => token.kind = delimiter := by
    have hkind := congrArg (fun kinds => (kinds[q]?).any fun kind => kind = delimiter) hkinds
    simpa only [List.getElem?_map, Option.any_map] using hkind
  induction fuel generalizing count p with
  | zero => nofun
  | succ fuel ih =>
    refine (h p).bind ?_
    rintro ⟨o, q, _⟩ ⟨o', _, _⟩ ⟨rfl, halike⟩
    cases halike with
    -- an ordinary failure stays one in the first round only
    | backtrack he =>
      by_cases hcount : count = 0
      · simp only [if_pos hcount]
        exact .ends ⟨rfl, .backtrack he⟩
      · simp only [if_neg hcount]
        exact .ends ⟨rfl, .cut he⟩
    | cut he =>
      by_cases hcount : count = 0
      · simp only [if_pos hcount]
        exact .ends ⟨rfl, .cut he⟩
      · simp only [if_neg hcount]
        exact .ends ⟨rfl, .cut he⟩
    | ok value =>
      simp only [hdelimiter q]
      by_cases hd : ((ts'[q]?).any fun token => token.kind = delimiter) = true
      · simp only [if_pos hd]
        refine (ih (count + 1) (q.advance 1)).map ?_
        rintro s t ⟨hcursor, hrest⟩
        exact ⟨hcursor, hrest.map _⟩
      · simp only [if_neg hd]
        exact .ends ⟨rfl, .ok [value]⟩

theorem list (h : FollowsOver Rel ts ts' c d) (delimiter : κ) :
    FollowsOver Rel ts ts' (Consumer.list c delimiter) (Consumer.list d delimiter) := by
  have hlength : ts.length = ts'.length := by
    simpa only [List.length_map] using congrArg List.length hkinds
  intro p
  rw [Consumer.list, Consumer.list, ← hlength]
  refine (itemsFrom hkinds h delimiter (ts.length + 1) 0 p).map ?_
  rintro ⟨o, q, _⟩ ⟨o', _, _⟩ ⟨rfl, halike⟩
  cases halike with
  | ok values => exact ⟨rfl, .ok values⟩
  | backtrack he => exact ⟨rfl, .backtrack he⟩
  | cut he => exact ⟨rfl, .cut he⟩

end FollowsOver

/-- Whether a second consumer ends wherever a first one does, and alike; how the errors are related
may depend on the tokens. -/
def Follows (Rel : List (Token κ) → ParseError → ParseError → Prop) (c d : Consumer κ α) : Prop :=
  ∀ ts, FollowsOver (Rel ts) ts ts c d

namespace Follows

variable {Rel Rel' Rel'' : List (Token κ) → ParseError → ParseError → Prop} {c d e : Consumer κ α}

theorem trans (htrans : ∀ ts e e' e'', Rel ts e e' → Rel' ts e' e'' → Rel'' ts e e'')
    (h : Follows Rel c d) (h' : Follows Rel' d e) : Follows Rel'' c e := by
  intro ts p s hs
  obtain ⟨t, ht, hcursor, halike⟩ := h ts p s hs
  obtain ⟨u, hu, hcursor', halike'⟩ := h' ts p t ht
  exact ⟨u, hu, hcursor.trans hcursor', halike.trans (htrans ts) halike'⟩

theorem never (d : Consumer κ α) : Follows Rel (fun _ _ => none) d := nofun

/-! Errors that the combinators find themselves are the same on both sides. -/

variable (hrefl : ∀ ts e, Rel ts e e)

include hrefl

theorem refl (c : Consumer κ α) : Follows Rel c c :=
  fun ts _ s hs => ⟨s, hs, rfl, .refl (hrefl ts) s.outcome⟩

theorem of_extends (h : Extends c d) : Follows Rel c d :=
  fun ts p s hs => ⟨s, h ts p s hs, rfl, .refl (hrefl ts) s.outcome⟩

theorem sequence {parts others : List (Consumer κ α)} (build : List α → Except String β)
    (h : Follows Rel (Consumer.inOrder parts) (Consumer.inOrder others)) :
    Follows Rel (Consumer.sequence parts build) (Consumer.sequence others build) :=
  fun ts => .sequence build (fun _ _ => hrefl ts _) (h ts)

omit hrefl

theorem inOrder {f g : γ → Consumer κ α} {xs : List γ} (h : ∀ x ∈ xs, Follows Rel (f x) (g x)) :
    Follows Rel (Consumer.inOrder (xs.map f)) (Consumer.inOrder (xs.map g)) :=
  fun ts => .inOrder fun x hx => h x hx ts

theorem optional (h : Follows Rel c d) :
    Follows Rel (Consumer.optional c) (Consumer.optional d) := fun ts => (h ts).optional

theorem lookahead (h : Follows Rel c d) :
    Follows Rel (Consumer.lookahead c) (Consumer.lookahead d) := fun ts => (h ts).lookahead

theorem cut (h : Follows Rel c d) : Follows Rel (Consumer.cut c) (Consumer.cut d) :=
  fun ts => (h ts).cut

theorem map (f : α → β) (h : Follows Rel c d) :
    Follows Rel (Consumer.map f c) (Consumer.map f d) := fun ts => (h ts).map f

theorem list [DecidableEq κ] (h : Follows Rel c d) (delimiter : κ) :
    Follows Rel (Consumer.list c delimiter) (Consumer.list d delimiter) :=
  fun ts => (h ts).list rfl delimiter

end Follows

end Consumer

end Descent
