import Descent.Json.Decode

/-!
# Strings of JSON, piece by piece

Between its quotes a string is a sequence of pieces: plain characters, escapes by letter and escapes
by number (`Json.Piece`). Not all that looks like a string is one: control characters have to be
escaped, one letter stands for nothing, and an escaped surrogate needs its other half right behind
it. What is one is what is read (`Json.decode_string_iff`).
-/

namespace Descent.Json

/-- The letters of escapes, of which `v` stands for nothing in JSON. -/
def escapeLetters : List Char := ['b', 'f', 'n', 'r', 't', 'v', '"', '\\', '/']

/-- A piece of a string. -/
inductive Piece where
  /-- A character that stands for itself. -/
  | plain (c : Char)
  /-- An escape by letter. -/
  | letter (c : Char)
  /-- An escape by number, with its four digits. -/
  | unit (a b c d : Char)
deriving DecidableEq, Repr

namespace Piece

/-- How a piece is written. -/
def text : Piece → List Char
  | plain c => [c]
  | letter c => ['\\', c]
  | unit a b c d => ['\\', 'u', a, b, c, d]

/-- Whether a piece looks like one. -/
def isPlausible : Piece → Bool
  | plain c => c != '"' && c != '\\'
  | letter c => escapeLetters.contains c
  | unit a b c d => [a, b, c, d].all fun digit => (hex? digit).isSome

/-- Whether a piece that looks like one is one. -/
def isValid : Piece → Bool
  | plain c => 0x20 ≤ c.toNat
  | letter c => c != 'v'
  | unit .. => true

/-- The number that is escaped. -/
def number? : Piece → Option Nat
  | unit a b c d =>
    (hex? a).bind fun a => (hex? b).bind fun b => (hex? c).bind fun c => (hex? d).map fun d =>
      ((a * 16 + b) * 16 + c) * 16 + d
  | _ => none

/-- Whether the first half of a surrogate pair is escaped. -/
def isHigh (piece : Piece) : Bool := piece.number?.any fun n => 0xD800 ≤ n && n ≤ 0xDBFF

/-- Whether the second half of a surrogate pair is escaped. -/
def isLow (piece : Piece) : Bool := piece.number?.any fun n => 0xDC00 ≤ n && n ≤ 0xDFFF

end Piece

/-- Whether escaped surrogates come in pairs. -/
def paired : List Piece → Bool
  | [] => true
  | piece :: rest =>
    if piece.isHigh then
      match rest with
      | [] => false
      | next :: rest => next.isLow && paired rest
    else !piece.isLow && paired rest

/-- Whether some pieces make up a string. -/
def isString (pieces : List Piece) : Bool := pieces.all Piece.isValid && paired pieces

theorem Piece.isHigh_eq_false_of_isLow {piece : Piece} (h : piece.isLow = true) :
    piece.isHigh = false := by
  rw [isLow] at h
  rw [isHigh]
  cases hn : piece.number? with
  | none => rfl
  | some n =>
    rw [hn, Option.any_some, Bool.and_eq_true, decide_eq_true_eq, decide_eq_true_eq] at h
    rw [Option.any_some, Bool.and_eq_false_iff, decide_eq_false_iff_not, decide_eq_false_iff_not]
    omega

theorem Piece.isLow_eq_false_of_isHigh {piece : Piece} (h : piece.isHigh = true) :
    piece.isLow = false := by
  refine Bool.eq_false_iff.2 fun hlow => ?_
  rw [isHigh_eq_false_of_isLow hlow] at h
  nomatch h

theorem Piece.isValid_of_isLow {piece : Piece} (h : piece.isLow = true) : piece.isValid = true := by
  cases piece with
  | plain c => nomatch h
  | letter c => nomatch h
  | unit a b c d => rfl

theorem isString_cons {piece : Piece} (h : piece.isHigh = false) (rest : List Piece) :
    isString (piece :: rest) = true ↔
      piece.isValid = true ∧ piece.isLow = false ∧ isString rest = true := by
  have hpaired : paired (piece :: rest) = (!piece.isLow && paired rest) := by
    cases rest <;> simp [paired, h]
  simp only [isString, List.all_cons, hpaired, Bool.and_eq_true, Bool.not_eq_true']
  constructor
  · rintro ⟨⟨hvalid, hrest⟩, hlow, hpaired⟩
    exact ⟨hvalid, hlow, hrest, hpaired⟩
  · rintro ⟨hvalid, hlow, hrest, hpaired⟩
    exact ⟨⟨hvalid, hrest⟩, hlow, hpaired⟩

theorem isString_pair {piece next : Piece} (h : piece.isHigh = true) (hvalid : piece.isValid = true)
    (rest : List Piece) :
    isString (piece :: next :: rest) = true ↔ next.isLow = true ∧ isString rest = true := by
  simp only [isString, List.all_cons, paired, h, if_true, Bool.and_eq_true, hvalid, true_and]
  constructor
  · rintro ⟨⟨-, hrest⟩, hlow, hpaired⟩
    exact ⟨hlow, hrest, hpaired⟩
  · rintro ⟨hlow, hrest, hpaired⟩
    exact ⟨⟨Piece.isValid_of_isLow hlow, hrest⟩, hlow, hpaired⟩

/-! ## Bytes -/

theorem length_loop_toList (bs : ByteArray) (i : Nat) (seen : List UInt8) :
    (ByteArray.toList.loop bs i seen).length = seen.length + (bs.size - i) := by
  fun_induction ByteArray.toList.loop bs i seen with
  | case1 i seen hlt ih =>
    rw [ih, List.length_cons]
    omega
  | case2 i seen hge =>
    rw [List.length_reverse]
    omega

/-- A text has at least as many bytes as characters. -/
theorem length_le_bytes (text : List Char) : text.length ≤ (bytes text).length := by
  rw [bytes, ByteArray.toList, length_loop_toList, String.toUTF8_eq_toByteArray,
    String.toByteArray_ofList, List.utf8Encode, List.size_toByteArray]
  induction text with
  | nil => exact Nat.zero_le _
  | cons c rest ih =>
    rw [List.flatMap_cons, List.length_append, String.length_utf8EncodeChar, List.length_cons]
    have hpos := c.utf8Size_pos
    simp only [List.length_nil] at ih ⊢
    omega

/-! ## Escapes -/

/-- Four digits are read as a number. -/
theorem readUnit_unit {a b c d : Char} {n : Nat} (h : (Piece.unit a b c d).number? = some n)
    (rest : List Char) : readUnit (a :: b :: c :: d :: rest) = .ok (n, rest) := by
  have hlength : ¬(bytes ((a :: b :: c :: d :: rest).take 4)).length < 4 :=
    Nat.not_lt.2 (length_le_bytes [a, b, c, d])
  simp only [Piece.number?, Option.bind_eq_some_iff, Option.map_eq_some_iff] at h
  obtain ⟨_, ha, _, hb, _, hc, _, hd, rfl⟩ := h
  rw [readUnit, if_neg hlength]
  simp only [ha, hb, hc, hd]

/-- An escape by letter is read if the letter stands for something. -/
theorem readEscape_letter_iff {c : Char} (hc : escapeLetters.contains c = true)
    (rest r : List Char) :
    (∃ read, readEscape false (c :: rest) = .ok (read, r)) ↔ c ≠ 'v' ∧ r = rest := by
  simp only [escapeLetters, List.contains_eq_mem, decide_eq_true_eq, List.mem_cons,
    List.not_mem_nil, or_false] at hc
  rcases hc with rfl | rfl | rfl | rfl | rfl | rfl | rfl | rfl | rfl <;>
    simp [readEscape, refuse, eq_comm]

/-- An escape by number is read as it is, unless it is half of a surrogate pair. -/
theorem readEscape_unit {a b c d : Char} {n : Nat} (h : (Piece.unit a b c d).number? = some n)
    (rest : List Char) : readEscape false ('u' :: a :: b :: c :: d :: rest)
      = if (Piece.unit a b c d).isLow then stopAt .loneSurrogate rest
        else if (Piece.unit a b c d).isHigh then readPartner n rest
        else .ok (Char.ofNat n, rest) := by
  rw [readEscape, readUnicode, readUnit_unit h, Piece.isLow, Piece.isHigh, h]
  simp only [Option.any_some, Bool.and_eq_true, decide_eq_true_eq]
  rfl

theorem Piece.exists_number? {a b c d : Char} (h : (unit a b c d).isPlausible = true) :
    ∃ n, (unit a b c d).number? = some n := by
  simp only [isPlausible, List.all_cons, List.all_nil, Bool.and_true, Bool.and_eq_true,
    Option.isSome_iff_exists] at h
  obtain ⟨⟨a', ha⟩, ⟨b', hb⟩, ⟨c', hc⟩, ⟨d', hd⟩⟩ := h
  exact ⟨_, by rw [number?, ha, hb, hc, hd]; rfl⟩

/-- Behind the first half of a pair nothing is read but the second half. -/
theorem readPartner_iff (high : Nat) {piece : Piece} (hpiece : piece.isPlausible = true)
    (rest r : List Char) :
    (∃ c, readPartner high (piece.text ++ rest) = .ok (c, r)) ↔ piece.isLow = true ∧ r = rest := by
  cases piece with
  | plain c =>
    have hc : c ≠ '\\' := by
      rw [Piece.isPlausible, Bool.and_eq_true] at hpiece
      exact bne_iff_ne.1 hpiece.2
    simp [Piece.text, Piece.isLow, Piece.number?, readPartner, hc, refuse]
  | letter c =>
    have hc : c ≠ 'u' := by
      rintro rfl
      revert hpiece
      decide
    simp [Piece.text, Piece.isLow, Piece.number?, readPartner, hc, refuse]
  | unit a b c d =>
    obtain ⟨n, hn⟩ := Piece.exists_number? hpiece
    have hread : readPartner high ((Piece.unit a b c d).text ++ rest)
        = if (Piece.unit a b c d).isLow then
            .ok (Char.ofNat ((high - 0xD800) * 0x400 + (n - 0xDC00) + 0x10000), rest)
          else stopAt .loneSurrogate rest := by
      rw [Piece.isLow, hn]
      simp only [Option.any_some, Bool.and_eq_true, decide_eq_true_eq]
      simp only [Piece.text, List.cons_append, List.nil_append, readPartner, readUnit_unit hn]
      rfl
    rw [hread]
    cases (Piece.unit a b c d).isLow <;> simp [stopAt, eq_comm]

/-! ## Whole strings -/

/-- Whether a string is read up to its closing quote, with some text left behind it. -/
def Closes (fuel : Nat) (text r : List Char) : Prop :=
  ∃ cs, readString false fuel text = .ok (cs, r)

theorem closes_quote (fuel : Nat) (rest r : List Char) :
    Closes (fuel + 1) ('"' :: rest) r ↔ r = rest := by
  simp [Closes, readString, eq_comm]

theorem exists_bind_iff {fuel : Nat} {c : Char} {more r : List Char} :
    (∃ cs, (do
      let (cs, rest) ← readString false fuel more
      pure (c :: cs, rest) : Except Fault (List Char × List Char)) = .ok (cs, r)) ↔
        Closes fuel more r := by
  cases hread : readString false fuel more with
  | error e => simp [Closes, hread, bind, Except.bind]
  | ok found => simp [Closes, hread, bind, Except.bind, pure, Except.pure, Prod.ext_iff]

theorem closes_plain {c : Char} (hc : (Piece.plain c).isPlausible = true) (fuel : Nat)
    (rest r : List Char) :
    Closes (fuel + 1) (c :: rest) r ↔ (Piece.plain c).isValid = true ∧ Closes fuel rest r := by
  rw [Piece.isPlausible, Bool.and_eq_true, bne_iff_ne, bne_iff_ne] at hc
  rw [Closes, readString, if_neg hc.1, if_neg hc.2, Piece.isValid, decide_eq_true_eq]
  by_cases hcontrol : c.toNat < 0x20
  · rw [if_pos hcontrol]
    exact iff_of_false nofun fun h => Nat.not_le.2 hcontrol h.1
  · rw [if_neg hcontrol]
    exact exists_bind_iff.trans (and_iff_right (Nat.not_lt.1 hcontrol)).symm

theorem closes_escape {rest behind : List Char} {valid : Prop}
    (h : ∀ more, (∃ c, readEscape false rest = .ok (c, more)) ↔ valid ∧ more = behind) (fuel : Nat)
    (r : List Char) : Closes (fuel + 1) ('\\' :: rest) r ↔ valid ∧ Closes fuel behind r := by
  rw [Closes, readString, if_neg (by decide), if_pos rfl]
  cases hread : readEscape false rest with
  | error e =>
    refine iff_of_false nofun fun hboth => ?_
    obtain ⟨c, hc⟩ := (h behind).2 ⟨hboth.1, rfl⟩
    rw [hread] at hc
    nomatch hc
  | ok found =>
    obtain ⟨c, more⟩ := found
    obtain ⟨hvalid, rfl⟩ := (h more).1 ⟨c, hread⟩
    exact exists_bind_iff.trans (and_iff_right hvalid).symm

theorem not_closes_escape {rest : List Char} (h : ∀ c more, readEscape false rest ≠ .ok (c, more))
    (fuel : Nat) (r : List Char) : ¬Closes (fuel + 1) ('\\' :: rest) r := by
  have hno (more : List Char) :
      (∃ c, readEscape false rest = .ok (c, more)) ↔ False ∧ more = rest :=
    iff_of_false (fun ⟨c, hc⟩ => h c more hc) nofun
  exact fun hcloses => ((closes_escape hno fuel r).1 hcloses).1

theorem closes_letter {c : Char} (hc : (Piece.letter c).isPlausible = true) (fuel : Nat)
    (rest r : List Char) :
    Closes (fuel + 1) ((Piece.letter c).text ++ rest) r ↔
      (Piece.letter c).isValid = true ∧ Closes fuel rest r := by
  rw [Piece.isValid, bne_iff_ne]
  exact closes_escape (readEscape_letter_iff hc rest) fuel r

section

variable {a b c d : Char} (h : (Piece.unit a b c d).isPlausible = true)

include h

/-- A second half of a pair is refused where a piece begins. -/
theorem not_closes_low (hlow : (Piece.unit a b c d).isLow = true) (fuel : Nat)
    (rest r : List Char) : ¬Closes (fuel + 1) ((Piece.unit a b c d).text ++ rest) r := by
  obtain ⟨n, hn⟩ := Piece.exists_number? h
  have hread := readEscape_unit hn rest
  rw [hlow, if_pos rfl] at hread
  exact not_closes_escape (fun c' more hc => nomatch hread.symm.trans hc) fuel r

/-- A first half of a pair is refused at the end of a string. -/
theorem not_closes_high (hhigh : (Piece.unit a b c d).isHigh = true) (fuel : Nat)
    (rest r : List Char) : ¬Closes (fuel + 1) ((Piece.unit a b c d).text ++ '"' :: rest) r := by
  obtain ⟨n, hn⟩ := Piece.exists_number? h
  have hread := readEscape_unit hn ('"' :: rest)
  rw [Piece.isLow_eq_false_of_isHigh hhigh, hhigh, if_neg Bool.false_ne_true, if_pos rfl] at hread
  exact not_closes_escape (fun c' more hc => nomatch hread.symm.trans hc) fuel r

/-- A first half of a pair is read together with the piece behind it. -/
theorem closes_pair_iff (hhigh : (Piece.unit a b c d).isHigh = true) {piece : Piece}
    (hpiece : piece.isPlausible = true) (fuel : Nat) (rest r : List Char) :
    Closes (fuel + 1) ((Piece.unit a b c d).text ++ (piece.text ++ rest)) r ↔
      piece.isLow = true ∧ Closes fuel rest r := by
  obtain ⟨n, hn⟩ := Piece.exists_number? h
  have hread := readEscape_unit hn (piece.text ++ rest)
  rw [Piece.isLow_eq_false_of_isHigh hhigh, hhigh, if_neg Bool.false_ne_true, if_pos rfl] at hread
  exact closes_escape (fun more => hread ▸ readPartner_iff n hpiece rest more) fuel r

/-- Any other number is a character of its own. -/
theorem closes_unit_iff (hlow : (Piece.unit a b c d).isLow = false)
    (hhigh : (Piece.unit a b c d).isHigh = false) (fuel : Nat) (rest r : List Char) :
    Closes (fuel + 1) ((Piece.unit a b c d).text ++ rest) r ↔ Closes fuel rest r := by
  obtain ⟨n, hn⟩ := Piece.exists_number? h
  have hread := readEscape_unit hn rest
  rw [hlow, hhigh, if_neg Bool.false_ne_true, if_neg Bool.false_ne_true] at hread
  have hone (more : List Char) : (∃ c', readEscape false ('u' :: a :: b :: c :: d :: rest)
      = .ok (c', more)) ↔ True ∧ more = rest := by
    rw [hread]
    simp [eq_comm]
  exact (closes_escape hone fuel r).trans (and_iff_right trivial)

end

/-- What looks like a string is read up to the closing quote if it is one, and not at all
otherwise. -/
theorem closes_pieces_iff {fuel : Nat} {pieces : List Piece} (hfuel : pieces.length < fuel)
    (hpieces : ∀ piece ∈ pieces, piece.isPlausible = true) (rest r : List Char) :
    Closes fuel (pieces.flatMap Piece.text ++ '"' :: rest) r ↔
      isString pieces = true ∧ r = rest := by
  -- on the fuel and not on the pieces, of which a surrogate pair takes two at once
  induction fuel generalizing pieces with
  | zero => exact absurd hfuel (Nat.not_lt_zero _)
  | succ fuel ih =>
    cases pieces with
    | nil => exact (closes_quote fuel rest r).trans (and_iff_right rfl).symm
    | cons piece pieces =>
      obtain ⟨hpiece, hmore⟩ := List.forall_mem_cons.1 hpieces
      have hrest := ih (Nat.lt_of_succ_lt_succ hfuel) hmore
      rw [List.flatMap_cons, List.append_assoc]
      cases piece with
      | plain c =>
        rw [isString_cons rfl, Piece.text, List.singleton_append, closes_plain hpiece, hrest]
        simp [Piece.isLow, Piece.number?, and_assoc]
      | letter c =>
        rw [isString_cons rfl, closes_letter hpiece, hrest]
        simp [Piece.isLow, Piece.number?, and_assoc]
      | unit a b c d =>
        cases hlow : (Piece.unit a b c d).isLow with
        | true =>
          rw [isString_cons (Piece.isHigh_eq_false_of_isLow hlow), hlow]
          exact iff_of_false (not_closes_low hpiece hlow fuel _ r) nofun
        | false =>
          cases hhigh : (Piece.unit a b c d).isHigh with
          | false =>
            rw [isString_cons hhigh, closes_unit_iff hpiece hlow hhigh, hrest]
            simp [Piece.isValid, hlow]
          | true =>
            cases pieces with
            | nil =>
              refine iff_of_false (not_closes_high hpiece hhigh fuel rest r) fun h => ?_
              simp [isString, paired, hhigh] at h
            | cons next pieces =>
              obtain ⟨hnext, hmore⟩ := List.forall_mem_cons.1 hmore
              have hlength : pieces.length < fuel := by
                simp only [List.length_cons] at hfuel
                omega
              rw [List.flatMap_cons, List.append_assoc, closes_pair_iff hpiece hhigh hnext,
                ih hlength hmore, isString_pair hhigh rfl, and_assoc]

theorem length_le_flatMap_text (pieces : List Piece) :
    pieces.length ≤ (pieces.flatMap Piece.text).length := by
  induction pieces with
  | nil => exact Nat.zero_le _
  | cons piece pieces ih =>
    have hpos : 0 < piece.text.length := by cases piece <;> exact Nat.succ_pos _
    rw [List.flatMap_cons, List.length_append, List.length_cons]
    omega

/-- A text that looks like a string denotes one if its pieces make up a string. -/
theorem decode_string_iff {pieces : List Piece}
    (hpieces : ∀ piece ∈ pieces, piece.isPlausible = true) :
    (∃ s, decode string ('"' :: (pieces.flatMap Piece.text ++ ['"'])) = .ok s) ↔
      isString pieces = true := by
  -- there is fuel for every character, and no piece is empty
  have hfuel : pieces.length < (pieces.flatMap Piece.text ++ ['"']).length + 1 := by
    rw [List.length_append]
    exact Nat.lt_succ_of_le (Nat.le_trans (length_le_flatMap_text pieces) (Nat.le_add_right _ _))
  have hcloses (r : List Char) := closes_pieces_iff hfuel hpieces [] r
  have hstring : string ('"' :: (pieces.flatMap Piece.text ++ ['"']))
      = readText false (pieces.flatMap Piece.text ++ ['"']) := rfl
  rw [decode, hstring, readText]
  cases hread : readString false ((pieces.flatMap Piece.text ++ ['"']).length + 1)
      (pieces.flatMap Piece.text ++ ['"']) with
  | error e =>
    refine iff_of_false nofun fun hvalid => ?_
    obtain ⟨cs, hcs⟩ := (hcloses []).2 ⟨hvalid, rfl⟩
    rw [hread] at hcs
    nomatch hcs
  | ok found =>
    obtain ⟨cs, rest⟩ := found
    obtain ⟨hvalid, rfl⟩ := (hcloses rest).1 ⟨cs, hread⟩
    exact iff_of_true ⟨String.ofList cs, rfl⟩ hvalid

end Descent.Json
