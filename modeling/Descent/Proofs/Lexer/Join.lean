import Descent.Proofs.Lexer.Alternates

/-!
# Joining patterns as text

A lexer joins its patterns as text, each in parentheses of its own, and reads the whole. What it
gets is the alternation of the patterns (`Lexer.alternates_of_build`), as long as every pattern lets
the parenthesis behind it close its group. A pattern may be valid and yet not do so: in the extended
layout it may end in a comment, and a comment goes on to the end of the line, whatever follows
(`Lexer.swallows_comment`).
-/

namespace Descent.Lexer

open Regex.Text

/-! ## Names of groups -/

theorem isNameChar_of_isDigit {c : Char} (h : c.isDigit = true) : isNameChar false c = true := by
  have hdigits : ∀ n < 58, 48 ≤ n → isNameChar false (Char.ofNat n) = true := by decide
  obtain ⟨hle, hge⟩ := Char.isDigit_iff_toNat.1 h
  rw [← Char.ofNat_toNat c]
  exact hdigits c.toNat (Nat.lt_succ_of_le hge) hle

theorem isNameChar_of_mem_groupName {i : Nat} {c : Char} (h : c ∈ groupName i) :
    isNameChar false c = true := by
  have hfront : "ravel_kind_".toList.all (isNameChar false) = true := by decide
  rcases List.mem_append.1 h with hin | hin
  · exact List.all_eq_true.1 hfront c hin
  · exact isNameChar_of_isDigit (Nat.isDigit_of_mem_toDigits (by decide) (by decide) hin)

/-- The name of a group is a name, and ends at its bracket. -/
theorem readName?_groupName (i : Nat) (rest : List Char) :
    readName? (groupName i ++ '>' :: rest) = some (groupName i, rest) := by
  have hne : ∀ c ∈ groupName i, (c != '>') = true := by
    intro c hc
    have hname := isNameChar_of_mem_groupName hc
    rw [bne_iff_ne]
    rintro rfl
    have hbracket : isNameChar false '>' = false := by decide
    exact Bool.false_ne_true (hbracket.symm.trans hname)
  have hspan : (groupName i ++ '>' :: rest).span (· != '>') = (groupName i, '>' :: rest) := by
    rw [List.span_eq_takeWhile_dropWhile, List.takeWhile_append_of_pos hne,
      List.dropWhile_append_of_pos hne]
    simp
  have hcons : groupName i = 'r' :: ("avel_kind_".toList ++ Nat.toDigits 10 i) := rfl
  have hfirst : isNameChar true 'r' = true := by decide
  have hrest : ("avel_kind_".toList ++ Nat.toDigits 10 i).all (isNameChar false) = true := by
    rw [List.all_eq_true]
    intro c hc
    refine isNameChar_of_mem_groupName (i := i) ?_
    rw [hcons]
    exact List.mem_cons_of_mem _ hc
  unfold readName?
  rw [hspan, hcons]
  exact if_pos ⟨hfirst, hrest⟩

/-! ## One pattern in its group -/

/-- Whether a pattern lets the parenthesis behind it close its group: the group alone is a valid
pattern. -/
def Closes (index : Nat) (pattern : List Char) : Prop :=
  (Regex.ofText? (joinFrom.wrap index pattern)).isSome

instance (index : Nat) (pattern : List Char) : Decidable (Closes index pattern) :=
  inferInstanceAs (Decidable (_ = true))

theorem wrap_eq (index : Nat) (pattern : List Char) : joinFrom.wrap index pattern
    = '(' :: '?' :: 'P' :: '<' :: (groupName index ++ '>' :: (pattern ++ [')'])) := by
  have hfront : "(?P<".toList = ['(', '?', 'P', '<'] := rfl
  unfold joinFrom.wrap
  rw [hfront]
  simp only [List.append_assoc, List.cons_append, List.nil_append]

section

variable {fuel i : Nat} {branches : List (List Regex)} {names : List (List Char)}
  {pattern more : List Char} {parts : List Regex} {after : Reading}

/-- The group of a class is read by reading its pattern. -/
theorem reads_wrap (h : readBranches? (fuel + 1) branches []
      ⟨.initial, names, joinFrom.wrap i pattern ++ more⟩ = some (parts, after)) :
    ∃ body middle rest,
      readBranches? fuel [] [] ⟨.initial, groupName i :: names, pattern ++ ')' :: more⟩
        = some (body, middle) ∧
      middle.rest = ')' :: rest ∧
      readBranches? fuel branches
          [some [Regex.group (some (groupName i)) (Regex.seqs body)]] ⟨.initial, middle.names, rest⟩
        = some (parts, after) := by
  let behind := '?' :: 'P' :: '<' :: (groupName i ++ '>' :: (pattern ++ ')' :: more))
  have hskip : skip Flags.initial.extended (joinFrom.wrap i pattern ++ more) = '(' :: behind := by
    have hnoLayout : ∀ text, skip Flags.initial.extended text = text := fun text => rfl
    rw [hnoLayout, wrap_eq]
    simp only [List.cons_append, List.append_assoc, List.nil_append, behind]
  have hname : opening? .initial behind
      = some (.capture (some (groupName i)), pattern ++ ')' :: more) := by
    have hnamed : opening? .initial behind
        = namedOpening? (groupName i ++ '>' :: (pattern ++ ')' :: more)) := rfl
    rw [hnamed, namedOpening?, readName?_groupName]
    rfl
  obtain ⟨opening, ⟨flags, newNames, rest⟩, hopening⟩ := exists_readOpening? hskip h
  obtain ⟨hread, hflags, hnames, -⟩ := readOpening?_cases hopening
  obtain ⟨rfl, rfl⟩ := Prod.mk.inj (Option.some.inj (hname.symm.trans hread))
  simp only at hflags hnames
  rw [hflags, hnames] at hopening
  rw [readBranches?_group hskip hopening rfl] at h
  obtain ⟨⟨body, middle⟩, hbody, h⟩ := Option.bind_eq_some_iff.1 h
  obtain ⟨rest, hclosed, h⟩ := Option.bind_eq_some_iff.1 h
  exact ⟨body, middle, rest, hbody, eq_cons_of_closed? hclosed, h⟩

/-- A pattern that is valid alone and closes its group is read in its group as it is alone,
whatever stands behind. -/
theorem reads_wrap_of_closes {r : Regex} (hvalid : Regex.ofText? pattern = some r)
    (hcloses : Closes i pattern)
    (h : readBranches? (fuel + 1) branches [] ⟨.initial, names, joinFrom.wrap i pattern ++ more⟩
      = some (parts, after)) :
    ∃ names', readBranches? fuel branches [some [Regex.group (some (groupName i)) r]]
      ⟨.initial, names', more⟩ = some (parts, after) := by
  obtain ⟨own, last, hown, hlast, rfl⟩ := reads_of_ofText? hvalid
  -- the group alone
  obtain ⟨closed, hclosed⟩ := Option.isSome_iff_exists.1 hcloses
  obtain ⟨_, _, hwrap, -, -⟩ := reads_of_ofText? hclosed
  rw [← List.append_nil (joinFrom.wrap i pattern)] at hwrap
  obtain ⟨body, middle, rest, hbody, hmiddle, -⟩ := reads_wrap hwrap
  obtain ⟨rfl, hfollows⟩ := (reads_of_readBranches? hown).agree hbody rfl (Or.inl rfl) fun _ => rfl
  rw [hlast, hmiddle] at hfollows
  obtain ⟨-, rfl⟩ := List.cons.inj (eq_append_of_follows hfollows (List.cons_ne_nil _ _))
  -- the group in front of more text
  obtain ⟨body', middle', rest', hbody', hmiddle', htail⟩ := reads_wrap h
  have htext : pattern ++ ')' :: more = (pattern ++ [')']) ++ more := by simp
  obtain ⟨rfl, hfollows'⟩ := (reads_of_readBranches? hbody).agree hbody' rfl (Or.inl htext)
    fun hnil => nomatch hmiddle.symm.trans hnil
  rw [hmiddle, hmiddle'] at hfollows'
  obtain ⟨-, rfl⟩ := List.cons.inj (eq_append_of_follows hfollows' (List.cons_ne_nil _ _))
  exact ⟨middle'.names, htail⟩

end

/-! ## All patterns -/

/-- The groups of the patterns, counted from an index. -/
def groupsFrom (index : Nat) (rs : List Regex) : List (Option (List Char) × Regex) :=
  (rs.zipIdx index).map fun entry => (some (groupName entry.2), entry.1)

/-- The joined text is read as one branch for each pattern, its group. -/
theorem reads_joinFrom {fuel index : Nat} {branches : List (List Regex)} {names : List (List Char)}
    {patterns : List (List Char)} {rs : List Regex} {parts : List Regex} {after : Reading}
    (hvalid : List.Forall₂ (fun p r => Regex.ofText? p = some r) patterns rs)
    (hne : patterns ≠ []) (hcloses : ∀ entry ∈ patterns.zipIdx index, Closes entry.2 entry.1)
    (h : readBranches? fuel branches [] ⟨.initial, names, joinFrom index patterns⟩
      = some (parts, after)) :
    parts = Regex.choose
      (branches.reverse ++ (groupsFrom index rs).map fun g => [Regex.group g.1 g.2]) := by
  induction hvalid generalizing fuel index branches names with
  | nil => exact absurd rfl hne
  | @cons pattern r patterns rs hpattern hrest ih =>
    obtain ⟨fuel, rfl⟩ := exists_fuel h
    rw [List.zipIdx_cons] at hcloses
    obtain ⟨hfirst, hcloses⟩ := List.forall_mem_cons.1 hcloses
    have hitems : Items.parts [some [Regex.group (some (groupName index)) r]]
        = [Regex.group (some (groupName index)) r] := rfl
    cases patterns with
    | nil =>
      -- the last group, and then the end of the text
      cases hrest
      have htext : joinFrom index [pattern] = joinFrom.wrap index pattern ++ [] := by
        rw [List.append_nil, joinFrom]
      rw [htext] at h
      obtain ⟨names', htail⟩ := reads_wrap_of_closes hpattern hfirst h
      obtain ⟨fuel, rfl⟩ := exists_fuel htail
      rw [readBranches?_stop rfl, hitems, List.reverse_cons] at htail
      exact (Prod.mk.inj (Option.some.inj htail)).1.symm
    | cons second patterns =>
      have htext : joinFrom index (pattern :: second :: patterns)
          = joinFrom.wrap index pattern ++ '|' :: joinFrom (index + 1) (second :: patterns) := by
        rw [joinFrom]
        exact List.cons_ne_nil _ _
      rw [htext] at h
      obtain ⟨names', htail⟩ := reads_wrap_of_closes hpattern hfirst h
      obtain ⟨fuel, rfl⟩ := exists_fuel htail
      rw [readBranches?_bar rfl, hitems] at htail
      rw [ih (List.cons_ne_nil _ _) hcloses htail, List.reverse_cons, List.append_assoc]
      rfl

/-! ## The lexer that is built -/

variable {κ : Type} [TokenKind κ] {l : Lexer κ} {defs : List (TokenDef κ)}

theorem readClass_eq_ok_iff {d : TokenDef κ} {c : TokenClass κ} :
    readClass d = .ok c ↔
      ∃ r, Regex.ofText? d.pattern.toList = some r ∧ c = ⟨d.kind, r, d.skip⟩ := by
  unfold readClass
  cases Regex.ofText? d.pattern.toList with
  | none => simp
  | some r => simp [eq_comm]

theorem ofText?_of_readClass {d : TokenDef κ} {c : TokenClass κ} (h : readClass d = .ok c) :
    Regex.ofText? d.pattern.toList = some c.pattern := by
  obtain ⟨r, hr, rfl⟩ := readClass_eq_ok_iff.1 h
  exact hr

/-- The splitter of a lexer whose patterns close their groups is their alternation. -/
theorem alternates_of_closes (h : build defs = .ok l)
    (hcloses : ∀ entry ∈ defs.zipIdx, Closes entry.2 entry.1.pattern.toList) : l.Alternates := by
  apply alternates_of_splitter h
  obtain ⟨hclasses, hsplitter⟩ := reads_of_build h
  cases defs with
  | nil =>
    obtain ⟨classes, splitter⟩ := l
    obtain rfl := List.forall₂_nil_left_iff.1 hclasses
    exact (Option.some.inj hsplitter).symm
  | cons d defs =>
    have hvalid : List.Forall₂ (fun p r => Regex.ofText? p = some r)
        ((d :: defs).map (·.pattern.toList)) (l.classes.map (·.pattern)) := by
      rw [List.forall₂_map_left_iff, List.forall₂_map_right_iff]
      exact hclasses.imp fun d c hread => ofText?_of_readClass hread
    have hcloses' : ∀ entry ∈ ((d :: defs).map (·.pattern.toList)).zipIdx,
        Closes entry.2 entry.1 := by
      rw [List.zipIdx_map]
      exact List.forall_mem_map.2 hcloses
    obtain ⟨parts, after, hread, -, hparts⟩ := reads_of_ofText? hsplitter
    rw [hparts, reads_joinFrom hvalid (List.cons_ne_nil _ _) hcloses' hread, List.reverse_nil,
      List.nil_append, Regex.seqs_choose_groups, groupsFrom, List.zipIdx_map, List.map_map,
      List.map_map]
    rfl

/-- If every pattern lets the parenthesis behind it close its group, the splitter is the ordered
alternation of the patterns, each in its own group, and wherever some pattern takes something, the
lexer finds a class. -/
theorem alternates_of_build (h : build defs = .ok l)
    (hcloses : ∀ entry ∈ defs.zipIdx, Closes entry.2 entry.1.pattern.toList) :
    l.Alternates ∧ ∀ p, (∃ d ∈ defs, ∃ r m, Regex.ofText? d.pattern.toList = some r ∧
      r.matchAt? p = some m ∧ m.length ≠ 0) → (l.matchAt? p).isSome := by
  have halternates := alternates_of_closes h hcloses
  refine ⟨halternates, ?_⟩
  rintro p ⟨d, hd, r, m, hr, hm, hlength⟩
  obtain ⟨c, hc, hread⟩ := exists_mem_of_forall₂ (classes_of_build h) hd
  obtain rfl := Option.some.inj (hr.symm.trans (ofText?_of_readClass hread))
  rw [halternates.matchAt?_eq, firstAt?, List.isSome_findSome?]
  rw [List.any_eq_true]
  refine ⟨c, hc, ?_⟩
  rw [hm, Option.bind_some, if_neg hlength]
  rfl

/-- Flags and comments of one pattern do not reach the next, as long as a line end closes the
comment. -/
theorem alternates_of_build_layout :
    let defs : List (TokenDef String) :=
      [⟨"word", "(?xi) a b # a comment\n", false⟩, ⟨"sign", "[#\n]|A B", false⟩]
    (∀ entry ∈ defs.zipIdx, Closes entry.2 entry.1.pattern.toList) ∧
      build defs = .ok (ofDefs defs) ∧ (ofDefs defs).Alternates ∧
      ((ofDefs defs).matchAt? (.front "A B".toList)).isSome := by
  intro defs
  have hcloses : ∀ entry ∈ defs.zipIdx, Closes entry.2 entry.1.pattern.toList := by decide
  have hl : build defs = .ok (ofDefs defs) := by decide
  obtain ⟨halternates, hfind⟩ := alternates_of_build hl hcloses
  refine ⟨hcloses, hl, halternates, hfind _ ⟨⟨"sign", "[#\n]|A B", false⟩, by decide, ?_⟩⟩
  exact ⟨(Regex.ofText? "[#\n]|A B".toList).getD .empty, ⟨3, []⟩, by decide,
    by decide, by decide⟩

/-- A comment swallows the parenthesis behind it and the beginning of the next pattern. Both
patterns are valid, and so is what they are joined to, but a character that the first one takes
belongs to no class. -/
theorem swallows_comment :
    let defs : List (TokenDef String) :=
      [⟨"word", "(?x)a#", false⟩, ⟨"sign", "[#\n]", false⟩]
    build defs = .ok (ofDefs defs) ∧
      (∃ d ∈ defs, ∃ r m, Regex.ofText? d.pattern.toList = some r ∧
        r.matchAt? (.front ['a']) = some m ∧ m.length ≠ 0) ∧
      (ofDefs defs).matchAt? (.front ['a']) = none := by
  intro defs
  refine ⟨by decide, ⟨⟨"word", "(?x)a#", false⟩, by decide, ?_⟩, by decide⟩
  exact ⟨(Regex.ofText? "(?x)a#".toList).getD .empty, ⟨1, []⟩, by decide,
    by decide, by decide⟩

end Descent.Lexer
