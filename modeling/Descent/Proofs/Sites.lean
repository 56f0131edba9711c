import Mathlib.Data.Prod.Lex
import Mathlib.Order.WithBot
import Descent.Rule.Consumer

/-!
# Where errors arise

Positions are compared by line and then by column, and the end of the input lies behind them all.
That order is the lexicographic one with a top, so `ParseError.site` maps errors to it and all that
is known about linear orders applies to *further than*.

In a token list in which every token starts behind the one before, as in the tokens of a text, a
larger cursor has a larger site (`siteAt_mono`).
-/

namespace Descent

/-- What a position is compared by. -/
def Position.key (p : Position) : ℕ ×ₗ ℕ := toLex (p.line, p.col)

theorem Position.isBefore_iff_key_lt {a b : Position} : a.isBefore b = true ↔ a.key < b.key := by
  rw [isBefore_iff, key, key, Prod.Lex.toLex_lt_toLex]

namespace ParseError

/-- Where an error arose, the end of the input behind all positions. -/
def site (e : ParseError) : WithTop (ℕ ×ₗ ℕ) := e.position.elim ⊤ fun p => p.key

theorem site_of_position {e : ParseError} {p : Position} (h : e.position = some p) :
    e.site = p.key := by
  rw [site, h, Option.elim_some]

theorem site_of_none {e : ParseError} (h : e.position = none) : e.site = ⊤ := by
  rw [site, h, Option.elim_none]

theorem site_congr {e other : ParseError} (h : e.position = other.position) :
    e.site = other.site := by
  rw [site, site, h]

/-- Further means a larger site. -/
theorem isFurtherThan_iff {e other : ParseError} :
    e.isFurtherThan other = true ↔ other.site < e.site := by
  cases he : e.position with
  | none =>
    cases ho : other.position with
    | none => simp [isFurtherThan, he, ho, site_of_none]
    | some theirs => simp [isFurtherThan, he, ho, site_of_none, site_of_position ho]
  | some mine =>
    cases ho : other.position with
    | none => simp [isFurtherThan, he, ho, site_of_none ho]
    | some theirs =>
      rw [site_of_position he, site_of_position ho, WithTop.coe_lt_coe,
        ← Position.isBefore_iff_key_lt]
      simp [isFurtherThan, he, ho]

end ParseError

/-! ## Token lists -/

variable {κ : Type} {ts : List (Token κ)} {p q : Cursor}

/-- The site of an error at a cursor. -/
def siteAt (ts : List (Token κ)) (p : Cursor) : WithTop (ℕ ×ₗ ℕ) :=
  ts[p]?.elim ⊤ fun t => t.location.start.key

namespace ParseError

/-- Whether an error has position and span of the token at a cursor, and neither if there is no such
token. -/
def IsAt (e : ParseError) (ts : List (Token κ)) (p : Cursor) : Prop :=
  e.position = ts[p]?.map (·.location.start) ∧ e.span = ts[p]?.map (·.span)

theorem site_eq_siteAt {e : ParseError} (h : e.position = ts[p]?.map (·.location.start)) :
    e.site = siteAt ts p := by
  rw [site, siteAt, h]
  cases ts[p]? <;> rfl

theorem IsAt.site_eq {e : ParseError} (h : e.IsAt ts p) : e.site = siteAt ts p :=
  site_eq_siteAt h.1

theorem IsAt.position_eq_none_iff {e : ParseError} (h : e.IsAt ts p) :
    e.position = none ↔ ts.length ≤ p := by
  rw [h.1, Option.map_eq_none_iff, List.getElem?_eq_none_iff]

theorem IsAt.span_eq_none_iff {e : ParseError} (h : e.IsAt ts p) :
    e.position = none ↔ e.span = none := by
  rw [h.1, h.2, Option.map_eq_none_iff, Option.map_eq_none_iff]

theorem isAt_located (reason : Reason) (ts : List (Token κ)) (p : Cursor) :
    (located reason ts[p]?).IsAt ts p := ⟨rfl, rfl⟩

theorem isAt_unexpected (ts : List (Token κ)) (p : Cursor) : (unexpected ts p).IsAt ts p := by
  rw [unexpected, IsAt]
  cases ts[p]? <;> exact ⟨rfl, rfl⟩

theorem isAt_mismatch (ts : List (Token κ)) (p : Cursor) (count : Nat) :
    (Consumer.mismatch ts p count).IsAt ts p := by
  rw [Consumer.mismatch, IsAt]
  cases ts[p]? <;> exact ⟨rfl, rfl⟩

end ParseError

theorem site_unexpected (ts : List (Token κ)) (p : Cursor) :
    (ParseError.unexpected ts p).site = siteAt ts p :=
  (ParseError.isAt_unexpected ts p).site_eq

/-- A name does not change where an error arose. -/
theorem site_expected_of_isEntryError {name : String} {e : ParseError}
    (h : Consumer.isEntryError e ts p = true) : (Consumer.expected name ts p).site = e.site := by
  rw [Consumer.isEntryError, beq_iff_eq] at h
  exact ParseError.site_congr h.symm

/-- Whether every token starts behind those before it. -/
def Ascending (ts : List (Token κ)) : Prop :=
  ts.Pairwise fun a b => a.location.start.key < b.location.start.key

/-- In ascending tokens a larger cursor has a larger site, up to the one behind the last token. -/
theorem siteAt_lt (hts : Ascending ts) {p q : Nat} (h : p < q) (hq : q ≤ ts.length) :
    siteAt ts p < siteAt ts q := by
  have hp : p < ts.length := h.trans_le hq
  rcases Nat.eq_or_lt_of_le hq with rfl | hlt
  · rw [siteAt, siteAt, List.getElem?_eq_getElem hp, List.getElem?_eq_none (Nat.le_refl _)]
    exact WithTop.coe_lt_top _
  · have hkey := List.pairwise_iff_getElem.1 hts p q hp hlt h
    rw [siteAt, siteAt, List.getElem?_eq_getElem hp, List.getElem?_eq_getElem hlt]
    exact WithTop.coe_lt_coe.2 hkey

/-- A larger cursor has no smaller site, however far behind the last token it is. -/
theorem siteAt_mono (hts : Ascending ts) {p q : Nat} (h : p ≤ q) : siteAt ts p ≤ siteAt ts q := by
  rcases Nat.eq_or_lt_of_le h with rfl | hlt
  · exact le_refl _
  · by_cases hq : q ≤ ts.length
    · exact (siteAt_lt hts hlt hq).le
    · -- behind the last token
      have hnone : ts[q]? = none := List.getElem?_eq_none (Nat.le_of_not_le hq)
      rw [siteAt, siteAt, hnone]
      exact le_top

theorem siteAt_lt_iff (hts : Ascending ts) {p q : Nat} (hq : q ≤ ts.length) :
    siteAt ts p < siteAt ts q ↔ p < q := by
  refine ⟨fun h => ?_, fun h => siteAt_lt hts h hq⟩
  by_contra hle
  exact absurd h (siteAt_mono hts (Nat.le_of_not_lt hle)).not_gt

/-- Different tokens that ascend have different sites, and the end of the tokens has one of its
own. -/
theorem siteAt_injective (hts : Ascending ts) {p q : Nat} (hp : p ≤ ts.length) (hq : q ≤ ts.length)
    (h : siteAt ts p = siteAt ts q) : p = q := by
  rcases Nat.lt_trichotomy p q with hlt | heq | hlt
  · exact absurd h (siteAt_lt hts hlt hq).ne
  · exact heq
  · exact absurd h (siteAt_lt hts hlt hp).ne'

/-- Among ascending tokens the position of an error tells the token. -/
theorem ParseError.IsAt.position_eq_iff {e : ParseError} (h : e.IsAt ts q) (hts : Ascending ts)
    (hq : q ≤ ts.length) (hp : p ≤ ts.length) :
    e.position = ts[p]?.map (·.location.start) ↔ p = q := by
  constructor
  · intro hposition
    exact siteAt_injective hts hp hq ((site_eq_siteAt hposition).symm.trans h.site_eq)
  · rintro rfl
    exact h.1

end Descent
