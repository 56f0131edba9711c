import Mathlib.Data.String.Basic

/-!
# The order of texts and the order of their bytes

Texts compare character by character. In UTF-8 a larger number has a larger first byte or, behind
equal first bytes, larger digits to the base 64, so texts compare as their bytes do
(`lt_iff_bytes_lt`).

A code for numbers ascends if it puts the smaller of two numbers in front, whatever bytes follow
(`Ascends`). The codes of one length are made from their first byte by appending digits
(`Ascends.digit`), and the whole code by putting the longer ones behind the shorter ones
(`Ascends.behind`).
-/

namespace Descent.Bytes

/-- Whether a code for the numbers below a bound puts smaller ones in front of larger ones, whatever
bytes follow either. -/
def Ascends (bound : Nat) (code : Nat → List UInt8) : Prop :=
  ∀ ⦃m n⦄, m < n → n < bound → ∀ x y, code m ++ x < code n ++ y

variable {bound m n : Nat}

theorem ofNat_cons_lt (h : m < n) (hn : n < 256) (x y : List UInt8) :
    UInt8.ofNat m :: x < UInt8.ofNat n :: y := by
  refine List.cons_lt_cons_iff.2 (.inl (UInt8.lt_iff_toNat_lt.2 ?_))
  rwa [UInt8.toNat_ofNat_of_lt' (h.trans hn), UInt8.toNat_ofNat_of_lt' hn]

/-- The first byte of a code has a mark that tells how many follow. -/
theorem ascends_first (bound mark : Nat) (h : bound + mark ≤ 256) :
    Ascends bound fun n => [UInt8.ofNat (n % bound + mark)] := by
  intro m n hlt hn x y
  beta_reduce
  rw [Nat.mod_eq_of_lt hn, Nat.mod_eq_of_lt (hlt.trans hn)]
  exact ofNat_cons_lt (by omega) (by omega) x y

/-- A code ascends with one more digit to the base 64. -/
theorem Ascends.digit {code : Nat → List UInt8} (h : Ascends bound code) :
    Ascends (bound * 64) fun n => code (n / 64) ++ [UInt8.ofNat (n % 64 + 128)] := by
  intro m n hlt hn x y
  simp only [List.append_assoc, List.singleton_append]
  rcases Nat.lt_or_eq_of_le (Nat.div_le_div_right hlt.le : m / 64 ≤ n / 64) with hdiv | hdiv
  · exact h hdiv (Nat.div_lt_of_lt_mul (Nat.mul_comm bound 64 ▸ hn)) _ _
  · rw [hdiv]
    exact List.append_left_lt (ofNat_cons_lt (by omega) (by omega) x y)

/-- A code for large numbers goes behind a code for small ones if its first byte is larger. -/
theorem Ascends.behind {last : Nat} {short long : Nat → List UInt8} (hlong : Ascends bound long)
    (hshort : Ascends (last + 1) short)
    (h : ∀ m n, m ≤ last → last < n → n < bound → ∀ x y, short m ++ x < long n ++ y) :
    Ascends bound fun n => if n ≤ last then short n else long n := by
  intro m n hlt hn x y
  by_cases hnlast : n ≤ last
  · simp only [if_pos (hlt.le.trans hnlast), if_pos hnlast]
    exact hshort hlt (Nat.lt_succ_of_le hnlast) x y
  · by_cases hmlast : m ≤ last
    · simp only [if_pos hmlast, if_neg hnlast]
      exact h m n hmlast (Nat.lt_of_not_le hnlast) hn x y
    · simp only [if_neg hmlast, if_neg hnlast]
      exact hlong hlt hn x y

/-- Smaller characters go in front of larger ones. -/
theorem utf8EncodeChar_append_lt {c d : Char} (h : c < d) (x y : List UInt8) :
    String.utf8EncodeChar c ++ x < String.utf8EncodeChar d ++ y := by
  have hone : Ascends (0x7f + 1) fun n => [UInt8.ofNat n] :=
    fun m n hlt hn => ofNat_cons_lt hlt (by omega)
  have htwo := (ascends_first 32 192 (by decide)).digit
  have hthree := (ascends_first 16 224 (by decide)).digit.digit
  have hfour := (ascends_first 8 240 (by decide)).digit.digit.digit
  simp only [List.cons_append, List.nil_append, Nat.div_div_eq_div_mul] at htwo hthree hfour
  have hbound : d.val.toNat < 8 * 64 * 64 * 64 := by
    have hvalid := d.valid
    omega
  -- the longer a code, the larger its first byte
  refine ((hfour.behind hthree fun m n hm hn hlt x y => ?_).behind htwo
    fun m n hm hn hlt x y => ?_).behind hone (fun m n hm hn hlt x y => ?_)
      (UInt32.lt_iff_toNat_lt.1 h) hbound x y
  · exact ofNat_cons_lt (by omega) (by omega) _ _
  · split <;> exact ofNat_cons_lt (by omega) (by omega) _ _
  · split
    · exact ofNat_cons_lt (by omega) (by omega) _ _
    · split <;> exact ofNat_cons_lt (by omega) (by omega) _ _

theorem flatMap_lt {cs ds : List Char} (h : cs < ds) :
    cs.flatMap String.utf8EncodeChar < ds.flatMap String.utf8EncodeChar := by
  induction cs generalizing ds with
  | nil =>
    cases ds with
    | nil => nomatch h
    | cons d ds =>
      obtain ⟨byte, rest, hd⟩ := List.exists_cons_of_ne_nil (String.utf8EncodeChar_ne_nil (c := d))
      rw [List.flatMap_cons, hd]
      exact List.nil_lt_cons _ _
  | cons c cs ih =>
    cases ds with
    | nil => nomatch h
    | cons d ds =>
      rw [List.flatMap_cons, List.flatMap_cons]
      rcases List.cons_lt_cons_iff.1 h with hlt | ⟨rfl, hlt⟩
      · exact utf8EncodeChar_append_lt hlt _ _
      · exact List.append_left_lt (ih hlt)

theorem toUTF8_toList (s : String) :
    s.toUTF8.data.toList = s.toList.flatMap String.utf8EncodeChar := by
  calc s.toUTF8.data.toList
    _ = (String.ofList s.toList).toByteArray.data.toList := by
      rw [String.ofList_toList, String.toUTF8_eq_toByteArray]
    _ = s.toList.flatMap String.utf8EncodeChar := by
      rw [String.toByteArray_ofList, List.utf8Encode, List.toList_data_toByteArray]

/-- Texts compare as their bytes in UTF-8 do. -/
theorem lt_iff_bytes_lt (s t : String) :
    s < t ↔ s.toUTF8.data.toList < t.toUTF8.data.toList := by
  have hlt {s t : String} (h : s < t) : s.toUTF8.data.toList < t.toUTF8.data.toList := by
    rw [toUTF8_toList, toUTF8_toList]
    exact flatMap_lt (String.lt_iff_toList_lt.1 h)
  refine ⟨hlt, fun hbytes => ?_⟩
  rcases lt_trichotomy s t with h | rfl | h
  · exact h
  · exact absurd hbytes (List.lt_irrefl _)
  · exact absurd hbytes (List.lt_asymm (hlt h))

end Descent.Bytes
