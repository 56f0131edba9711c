import Descent.Proofs.Lexer.Lexemes
import Descent.Proofs.Regex.SingleThread

/-!
# White space between lexemes

Many lexers skip white space, tell the class of a lexeme by its first character and never look
behind its end for what decides about it (`Lexer.SetsApart`). Such a lexer finds the same lexemes
however they are set apart: if white space is put before, between and behind the chunks of a text,
and other white space in the place of what is skipped (`Lexer.Respaced`), the tokens have the same
kinds and texts (`Lexer.SetsApart.tokenize_respaced`).

What makes a chunk end where it did is the next character. It is the one that was there before,
white space, or none. White space ends every lexeme; and if the walk over a lexeme could go on over
the first character of another one, it could stop behind it too, so the lexeme would have been
longer.
-/

namespace Descent

/-- Whether a text is white space. -/
def Blank (text : List Char) : Prop := ∀ c ∈ text, Unicode.Property.space.holds c = true

instance (text : List Char) : Decidable (Blank text) := List.decidableBAll _ text

namespace Blank

variable {text more : List Char}

theorem nil : Blank [] := List.forall_mem_nil _

theorem append (h : Blank text) (hmore : Blank more) : Blank (text ++ more) :=
  List.forall_mem_append.2 ⟨h, hmore⟩

end Blank

theorem Place.advance_append (before text more : List Char) :
    Place.advance ⟨before, text ++ more⟩ text.length = ⟨text.reverse ++ before, more⟩ := by
  induction text generalizing before with
  | nil => rfl
  | cons c rest ih =>
    rw [List.reverse_cons, List.append_assoc, List.singleton_append]
    exact ih (c :: before)

/-! ## Runs of white space -/

namespace Regex

/-- One or more characters of white space. -/
def spaces : Regex := .plus (.one (.property .space)) true

theorem isSingle_spaces : spaces.isSingle = true := by
  set_option maxRecDepth 4000 in decide

theorem next?_spaces {stage : Stage} (hstage : stage ∈ spaces.stages) (c : Char) :
    spaces.next? stage c = if Unicode.Property.space.holds c then some [.first] else none := by
  have hsorts : spaces.sorts.all (fun d => spaces.stages.all fun stage => spaces.next? stage d
      = if Unicode.Property.space.holds d then some [.first] else none) = true := by
    set_option maxRecDepth 4000 in decide
  simp only [List.all_eq_true, decide_eq_true_eq] at hsorts
  obtain ⟨d, hd, hsame⟩ := exists_sort isSingle_spaces c
  have hspace : Unicode.Property.space.holds d = Unicode.Property.space.holds c :=
    List.map_inj_left.1 hsame _ (List.mem_singleton_self _)
  have hanchorless := isAnchorless_of_isSingle isSingle_spaces
  rw [← next?_eq_of_signature hanchorless hsame, hsorts d hd _ hstage, hspace]

theorem walk_spaces {text : List Char} (h : Blank text) (hne : text ≠ []) {stage : Stage}
    (hstage : stage ∈ spaces.stages) : spaces.walk stage text = some (some [.first]) := by
  induction text generalizing stage with
  | nil => exact absurd rfl hne
  | cons c rest ih =>
    obtain ⟨hc, hrest⟩ := List.forall_mem_cons.1 h
    rw [walk, next?_spaces hstage, if_pos hc, Option.bind_some]
    cases rest with
    | nil => rfl
    | cons d rest => exact ih hrest (List.cons_ne_nil d rest) (by decide)

/-- White space matches up to the first character that is none. -/
theorem longest_spaces {text more : List Char} (h : Blank text) (hne : text ≠ [])
    (hmore : ∀ c ∈ more.head?, Unicode.Property.space.holds c = false) :
    spaces.longest none (text ++ more) = some text.length := by
  refine longest_of_walk (walk_spaces h hne List.mem_cons_self) (by decide) ?_
  cases more with
  | nil => rfl
  | cons c rest =>
    have hc : Unicode.Property.space.holds c = false := hmore c rfl
    have hnext := next?_spaces (show some [.first] ∈ spaces.stages by decide) c
    rw [hc] at hnext
    exact hnext

end Regex

/-! ## Lexers for which white space does not matter -/

variable {κ : Type}

/-- Whether a class has lexemes that begin with a character. -/
def TokenClass.begins (cls : TokenClass κ) (c : Char) : Bool := (cls.pattern.next? none c).isSome

namespace Lexer

variable {l : Lexer κ}

/-- Whether white space sets the lexemes of a lexer apart. -/
structure SetsApart (l : Lexer κ) : Prop where
  single : ∀ cls ∈ l.classes, cls.pattern.isSingle = true
  /-- The first character of a lexeme tells its class. -/
  begins_inj : ∀ cls ∈ l.classes, ∀ other ∈ l.classes, ∀ c, cls.begins c = true →
    other.begins c = true → cls = other
  exists_skip : ∃ cls ∈ l.classes, cls.skip = true
  pattern_eq : ∀ cls ∈ l.classes, cls.skip = true → cls.pattern = Regex.spaces
  /-- White space does not go on with a lexeme. -/
  next?_space : ∀ cls ∈ l.classes, cls.skip = false → ∀ stage ∈ cls.pattern.stages,
    cls.pattern.stops stage = true → ∀ c, Unicode.Property.space.holds c = true →
      cls.pattern.next? stage c = none
  /-- What goes on with a lexeme and begins another one makes a longer lexeme. -/
  stops_next? : ∀ cls ∈ l.classes, cls.skip = false → ∀ stage ∈ cls.pattern.stages,
    cls.pattern.stops stage = true → ∀ other ∈ l.classes, ∀ c, other.begins c = true →
      ∀ spot, cls.pattern.next? stage c = some spot → cls.pattern.stops (some spot) = true

/-- What can be computed to find out that white space sets the lexemes of some classes apart. -/
def areApart (classes : List (TokenClass κ)) : Bool :=
  let starters := standIns.filter fun c =>
    Unicode.Property.space.holds c || classes.any (·.begins c)
  classes.all (·.pattern.isSingle) && classes.any (·.skip) &&
    standIns.all (fun c => (classes.filter (·.begins c)).length ≤ 1) &&
    classes.all fun cls =>
      if cls.skip then cls.pattern = Regex.spaces
      else cls.pattern.stages.all fun stage =>
        !cls.pattern.stops stage || starters.all fun c =>
          if Unicode.Property.space.holds c then (cls.pattern.next? stage c).isNone
          else (cls.pattern.next? stage c).all fun spot => cls.pattern.stops (some spot)

/-! ## Other white space -/

/-- Whether a text has the chunks of another one, with white space put before, between and behind
them and other white space in the place of those that are skipped. -/
inductive Respaced : List (Chunk κ) → List Char → Prop
  | done {space : List Char} (hspace : Blank space) : Respaced [] space
  | keep {space text : List Char} {chunk : Chunk κ} {rest : List (Chunk κ)} (hspace : Blank space)
    (hskip : chunk.cls.skip = false) (hrest : Respaced rest text) :
    Respaced (chunk :: rest) (space ++ (chunk.text ++ text))
  | skip {space space' text : List Char} {chunk : Chunk κ} {rest : List (Chunk κ)}
    (hspace : Blank space) (hspace' : Blank space') (hne : space' ≠ [])
    (hskip : chunk.cls.skip = true) (hrest : Respaced rest text) :
    Respaced (chunk :: rest) (space ++ (space' ++ text))

/-- The chunks that are not skipped. -/
def lexemes (chunks : List (Chunk κ)) : List (Chunk κ) := chunks.filter fun chunk => !chunk.cls.skip

theorem lexemes_cons {chunk : Chunk κ} {chunks : List (Chunk κ)} (hskip : chunk.cls.skip = false) :
    lexemes (chunk :: chunks) = chunk :: lexemes chunks :=
  List.filter_cons_of_pos (by rw [hskip]; rfl)

theorem lexemes_cons_of_skip {chunk : Chunk κ} {chunks : List (Chunk κ)}
    (hskip : chunk.cls.skip = true) : lexemes (chunk :: chunks) = lexemes chunks :=
  List.filter_cons_of_neg (by rw [hskip]; nofun)

theorem begins_of_longest {cls : TokenClass κ} {text : List Char} {n : Nat}
    (h : cls.pattern.longest none text = some n) (hne : n ≠ 0) :
    ∃ c rest, text = c :: rest ∧ cls.begins c = true := by
  obtain ⟨hle, stop, hwalk, -⟩ := Regex.exists_walk_of_longest h
  cases text with
  | nil => exact absurd (Nat.le_zero.1 hle) hne
  | cons c rest =>
    obtain ⟨k, rfl⟩ := Nat.exists_eq_succ_of_ne_zero hne
    obtain ⟨spot, hspot, -⟩ := Option.bind_eq_some_iff.1 hwalk
    exact ⟨c, rest, rfl, Option.isSome_iff_exists.2 ⟨spot, hspot⟩⟩

/-! ## Chunks and tokens -/

theorem chunks_eq_of_chain {text before : List Char} {chunks : List (Chunk κ)}
    (h : l.Chain (.front text) chunks ⟨before, []⟩) : (l.chunks text).1 = chunks := by
  obtain ⟨hchain, hstop⟩ := l.chain_chunks text
  exact (hchain.unique (hstop.elim matchAt?_eq_none_of_after_eq_nil id) h
    (matchAt?_eq_none_of_after_eq_nil rfl)).1

theorem tokenize_of_chain {source : String} {before : List Char} {chunks : List (Chunk κ)}
    (h : l.Chain (.front source.toList) chunks ⟨before, []⟩) :
    l.tokenize source = .ok (tokensOf chunks) := by
  rw [← List.reverse_reverse before] at h
  exact tokenize_of_stop h (matchAt?_eq_none_of_after_eq_nil rfl)

theorem map_lexeme_tokensOf (chunks : List (Chunk κ)) :
    (tokensOf chunks).map Token.lexeme
      = (lexemes chunks).map fun chunk => (chunk.cls.kind, String.ofList chunk.text) := by
  have hfilter : (chunks.zipIdx.filter fun entry => !entry.1.cls.skip).map Prod.fst
      = lexemes chunks := by
    have hfst := congrArg (List.filter fun chunk : Chunk κ => !chunk.cls.skip)
      (List.zipIdx_map_fst 0 chunks)
    rwa [List.filter_map] at hfst
  rw [← hfilter, tokensOf, List.map_map, List.map_map]
  rfl

namespace SetsApart

variable (h : l.SetsApart)

include h

/-- What a lexer finds is what the one class finds that the first character tells. -/
theorem firstAt?_eq_some_iff {p : Place} {cls : TokenClass κ} {n : Nat} :
    firstAt? l.classes p = some (cls, n) ↔
      cls ∈ l.classes ∧ n ≠ 0 ∧ cls.pattern.longest none p.after = some n := by
  have hfound {cls : TokenClass κ} {n : Nat} (hfirst : firstAt? l.classes p = some (cls, n)) :
      cls ∈ l.classes ∧ n ≠ 0 ∧ cls.pattern.longest none p.after = some n := by
    obtain ⟨hcls, m, hm, rfl, hne⟩ := exists_matchAt?_of_firstAt? hfirst
    rw [Regex.matchAt?_eq_longest (h.single cls hcls)] at hm
    obtain ⟨n, hn, rfl⟩ := Option.map_eq_some_iff.1 hm
    exact ⟨hcls, hne, hn⟩
  refine ⟨hfound, ?_⟩
  rintro ⟨hcls, hne, hlongest⟩
  have hself : ((cls.pattern.matchAt? p).bind fun m =>
      if m.length = 0 then none else some (cls, m.length)) = some (cls, n) := by
    rw [Regex.matchAt?_eq_longest (h.single cls hcls), hlongest, Option.map_some, Option.bind_some,
      if_neg hne]
  have hsome : (firstAt? l.classes p).isSome :=
    List.findSome?_isSome_iff.2 ⟨cls, hcls, Option.isSome_iff_exists.2 ⟨_, hself⟩⟩
  obtain ⟨⟨other, k⟩, hother⟩ := Option.isSome_iff_exists.1 hsome
  obtain ⟨hmem, hk, hlongest'⟩ := hfound hother
  -- both classes have lexemes that begin as the text does
  obtain ⟨c, rest, htext, hc⟩ := begins_of_longest hlongest hne
  obtain ⟨c', rest', htext', hc'⟩ := begins_of_longest hlongest' hk
  obtain ⟨rfl, rfl⟩ := List.cons.inj (htext.symm.trans htext')
  obtain rfl := h.begins_inj cls hcls other hmem c hc hc'
  rw [hother, Option.some.inj (hlongest'.symm.trans hlongest)]

/-- No lexeme begins with white space. -/
theorem space_eq_false_of_begins {cls : TokenClass κ} (hcls : cls ∈ l.classes)
    (hskip : cls.skip = false) {c : Char} (hc : cls.begins c = true) :
    Unicode.Property.space.holds c = false := by
  refine Bool.eq_false_iff.2 fun hspace => ?_
  obtain ⟨other, hother, hskip'⟩ := h.exists_skip
  have hbegins : other.begins c = true := by
    rw [TokenClass.begins, h.pattern_eq other hother hskip', Regex.next?_spaces List.mem_cons_self,
      if_pos hspace]
    rfl
  obtain rfl := h.begins_inj cls hcls other hother c hc hbegins
  rw [hskip] at hskip'
  nomatch hskip'

/-- A lexeme is found wherever it stands in front of white space, of what stood behind it, or of
nothing. -/
theorem longest_append {cls : TokenClass κ} (hcls : cls ∈ l.classes) (hskip : cls.skip = false)
    {text more more' : List Char} (hlongest : cls.pattern.longest none (text ++ more)
      = some text.length)
    (hmore : ∀ c ∈ more'.head?, Unicode.Property.space.holds c = true ∨
      c ∈ more.head? ∧ ∃ other ∈ l.classes, other.begins c = true) :
    cls.pattern.longest none (text ++ more') = some text.length := by
  obtain ⟨-, stop, hwalk, hstops⟩ := Regex.exists_walk_of_longest hlongest
  rw [List.take_left] at hwalk
  have hstage : stop ∈ cls.pattern.stages :=
    Regex.mem_stages_of_walk (h.single cls hcls) List.mem_cons_self hwalk
  refine Regex.longest_of_walk hwalk hstops ?_
  cases more' with
  | nil => rfl
  | cons c rest =>
    rw [List.head?_cons, Option.bind_some]
    obtain hspace | ⟨hc, other, hother, hbegins⟩ := hmore c rfl
    · exact h.next?_space cls hcls hskip stop hstage hstops c hspace
    · -- a walk that went on could stop one character further
      refine Option.eq_none_iff_forall_ne_some.2 fun spot hspot => ?_
      have hspots :=
        h.stops_next? cls hcls hskip stop hstage hstops other hother c hbegins spot hspot
      obtain ⟨behind, rfl⟩ := List.head?_eq_some_iff.1 hc
      have hlonger : cls.pattern.walk none (text ++ [c]) = some (some spot) := by
        rw [Regex.walk_append, hwalk, Option.bind_some, Regex.walk, hspot]
        rfl
      obtain ⟨n, hn, hle⟩ := Regex.exists_longest_of_walk behind hlonger hspots
      rw [List.append_assoc, List.singleton_append, hlongest] at hn
      obtain rfl := Option.some.inj hn
      rw [List.length_append, List.length_singleton] at hle
      omega

/-! ## Chains -/

variable (halternates : l.Alternates)

include halternates

theorem matchAt?_eq_some_iff {p : Place} {cls : TokenClass κ} {n : Nat} :
    l.matchAt? p = some (cls, n) ↔
      cls ∈ l.classes ∧ n ≠ 0 ∧ cls.pattern.longest none p.after = some n := by
  rw [halternates.matchAt?_eq, h.firstAt?_eq_some_iff]

/-- White space in front of a chain is one chunk more, which is skipped. -/
theorem exists_chain_append {space rest before : List Char} {chunks : List (Chunk κ)} {stop : Place}
    (hspace : Blank space) (hrest : ∀ c ∈ rest.head?, Unicode.Property.space.holds c = false)
    (hchain : l.Chain ⟨space.reverse ++ before, rest⟩ chunks stop) :
    ∃ chunks', l.Chain ⟨before, space ++ rest⟩ chunks' stop ∧ lexemes chunks' = lexemes chunks := by
  by_cases hne : space = []
  · subst hne
    exact ⟨chunks, hchain, rfl⟩
  · obtain ⟨cls, hcls, hskip⟩ := h.exists_skip
    have hlongest := Regex.longest_spaces hspace hne hrest
    rw [← h.pattern_eq cls hcls hskip] at hlongest
    have hlength : space.length ≠ 0 := mt List.length_eq_zero_iff.1 hne
    have hmatch : l.matchAt? ⟨before, space ++ rest⟩ = some (cls, space.length) :=
      (h.matchAt?_eq_some_iff halternates).2 ⟨hcls, hlength, hlongest⟩
    exact ⟨_, .cons hmatch (Place.advance_append before space rest ▸ hchain),
      lexemes_cons_of_skip hskip⟩

/-- A chain begins with its first chunk, whose first character tells its class. -/
theorem head?_of_respaced {p stop : Place} {chunks : List (Chunk κ)}
    (hchain : l.Chain p chunks stop) {text : List Char} (hspaced : Respaced chunks text) :
    ∀ c ∈ text.head?, Unicode.Property.space.holds c = true ∨
      c ∈ p.after.head? ∧ ∃ cls ∈ l.classes, cls.begins c = true := by
  have hblank {space more : List Char} (hspace : Blank space) (hne : space ≠ []) :
      ∀ c ∈ (space ++ more).head?, Unicode.Property.space.holds c = true := by
    intro c hc
    obtain ⟨first, rest, rfl⟩ := List.exists_cons_of_ne_nil hne
    obtain rfl := Option.some.inj hc
    exact hspace _ List.mem_cons_self
  intro c hc
  cases hspaced with
  | done hspace => exact Or.inl (hspace c (List.mem_of_mem_head? hc))
  | skip hspace hspace' hne hskip hrest =>
    rw [← List.append_assoc] at hc
    exact Or.inl (hblank (hspace.append hspace') (by simp [hne]) c hc)
  | @keep space text chunk rest hspace hskip hrest =>
    -- without white space in front the text begins as the chunk does
    by_cases hspaces : space = []
    · refine Or.inr ?_
      cases hchain with
      | cons hm hchain =>
        obtain ⟨hcls, hne, hlongest⟩ := (h.matchAt?_eq_some_iff halternates).1 hm
        obtain ⟨d, behind, hafter, hd⟩ := begins_of_longest hlongest hne
        obtain ⟨k, rfl⟩ := Nat.exists_eq_succ_of_ne_zero hne
        rw [hspaces, hafter, List.nil_append, List.take_succ_cons] at hc
        obtain rfl := Option.some.inj hc
        exact ⟨hafter ▸ rfl, _, hcls, hd⟩
    · exact Or.inl (hblank hspace hspaces c hc)

/-- What is kept does not begin with white space. -/
theorem space_eq_false_of_matchAt? {p : Place} {cls : TokenClass κ} {n : Nat}
    (hm : l.matchAt? p = some (cls, n)) (hskip : cls.skip = false) :
    ∀ c ∈ p.after.head?, Unicode.Property.space.holds c = false := by
  obtain ⟨hcls, hne, hlongest⟩ := (h.matchAt?_eq_some_iff halternates).1 hm
  obtain ⟨c, rest, hafter, hc⟩ := begins_of_longest hlongest hne
  rw [hafter]
  intro d hd
  obtain rfl := Option.some.inj hd
  exact h.space_eq_false_of_begins hcls hskip hc

/-- What is kept is found again, whatever stands before it, in front of what follows it,
respaced. -/
theorem matchAt?_of_respaced {p stop : Place} {cls : TokenClass κ} {n : Nat}
    {chunks : List (Chunk κ)} (hm : l.matchAt? p = some (cls, n)) (hskip : cls.skip = false)
    (hrest : l.Chain (p.advance n) chunks stop) {text : List Char} (hspaced : Respaced chunks text)
    (before : List Char) :
    l.matchAt? ⟨before, p.after.take n ++ text⟩ = some (cls, (p.after.take n).length) := by
  obtain ⟨hcls, hne, hlongest⟩ := (h.matchAt?_eq_some_iff halternates).1 hm
  obtain ⟨hle, -⟩ := Regex.exists_walk_of_longest hlongest
  have hlength : (p.after.take n).length = n := List.length_take_of_le hle
  refine (h.matchAt?_eq_some_iff halternates).2 ⟨hcls, by rwa [hlength], ?_⟩
  refine h.longest_append hcls hskip (by rw [List.take_append_drop, hlength, hlongest]) ?_
  rw [← Place.after_advance]
  exact h.head?_of_respaced halternates hrest hspaced

/-- What is respaced is cut into the same lexemes. -/
theorem exists_chain_of_respaced {p stop : Place} {chunks : List (Chunk κ)}
    (hchain : l.Chain p chunks stop) {text : List Char} (hspaced : Respaced chunks text)
    {space : List Char} (hspace : Blank space) (before : List Char) :
    ∃ chunks' last, l.Chain ⟨before, space ++ text⟩ chunks' ⟨last, []⟩ ∧
      lexemes chunks' = lexemes chunks := by
  induction hchain generalizing text space before with
  | nil p =>
    cases hspaced with
    | done hspace' =>
      have hnil : ∀ c ∈ ([] : List Char).head?, Unicode.Property.space.holds c = false := nofun
      obtain ⟨chunks', hchain, hlexemes⟩ := h.exists_chain_append halternates
        (hspace.append hspace') hnil (.nil ⟨(space ++ text).reverse ++ before, []⟩)
      rw [List.append_nil] at hchain
      exact ⟨chunks', _, hchain, hlexemes⟩
  | @cons p stop cls n chunks hm hrest ih =>
    cases hspaced with
    | @skip space' space'' text _ _ hspace' hspace'' hne hskip hspaced =>
      -- the white space of the chunk is only more of the white space before what follows
      obtain ⟨chunks', last, hchain, hlexemes⟩ :=
        ih hspaced (hspace.append (hspace'.append hspace'')) before
      rw [List.append_assoc, List.append_assoc] at hchain
      exact ⟨chunks', last, hchain, hlexemes.trans (lexemes_cons_of_skip hskip).symm⟩
    | @keep space' text _ _ hspace' hskip hspaced =>
      obtain ⟨chunks', last, hchain, hlexemes⟩ := ih hspaced .nil
        ((p.after.take n).reverse ++ ((space ++ space').reverse ++ before))
      have hfound : l.matchAt? ⟨(space ++ space').reverse ++ before, p.after.take n ++ text⟩
          = some (cls, (p.after.take n).length) :=
        h.matchAt?_of_respaced halternates hm hskip hrest hspaced _
      rw [List.nil_append, ← Place.advance_append] at hchain
      have hlexeme := Chain.cons hfound hchain
      rw [List.take_left] at hlexeme
      have hhead := h.space_eq_false_of_matchAt? halternates hfound hskip
      obtain ⟨chunks'', hchain, hlexemes'⟩ :=
        h.exists_chain_append halternates (hspace.append hspace') hhead hlexeme
      rw [List.append_assoc] at hchain
      refine ⟨chunks'', last, hchain, hlexemes'.trans ?_⟩
      rw [lexemes_cons hskip, lexemes_cons hskip, hlexemes]

/-! ## Whole texts -/

/-- A text whose chunks are respaced has tokens of the same kinds and texts. -/
theorem tokenize_respaced {source source' : String} {ts : List (Token κ)}
    (hts : l.tokenize source = .ok ts)
    (hspaced : Respaced (l.chunks source.toList).1 source'.toList) :
    ∃ ts', l.tokenize source' = .ok ts' ∧ ts'.map Token.lexeme = ts.map Token.lexeme := by
  obtain ⟨chunks, hchain, rfl⟩ := chain_of_tokenize hts
  rw [chunks_eq_of_chain hchain] at hspaced
  obtain ⟨chunks', last, hchain', hlexemes⟩ :=
    h.exists_chain_of_respaced halternates hchain hspaced .nil []
  refine ⟨tokensOf chunks', tokenize_of_chain hchain', ?_⟩
  rw [map_lexeme_tokensOf, map_lexeme_tokensOf, hlexemes]

end SetsApart

/-- The check for one class that is not skipped. -/
theorem all_starters_of_areApart (h : areApart l.classes = true) {cls : TokenClass κ}
    (hcls : cls ∈ l.classes) (hskip : cls.skip = false) {stage : Regex.Stage}
    (hstage : stage ∈ cls.pattern.stages) (hstops : cls.pattern.stops stage = true) {c : Char}
    (hc : Unicode.Property.space.holds c = true ∨ ∃ other ∈ l.classes, other.begins c = true) :
    (if Unicode.Property.space.holds c then (cls.pattern.next? stage c).isNone
      else (cls.pattern.next? stage c).all fun spot => cls.pattern.stops (some spot)) = true := by
  simp only [areApart, Bool.and_eq_true, List.all_eq_true] at h
  obtain ⟨⟨⟨hsingle, -⟩, -⟩, hpattern⟩ := h
  have hstages := hpattern cls hcls
  rw [if_neg (by rw [hskip]; nofun), List.all_eq_true] at hstages
  have hstarters := hstages stage hstage
  rw [hstops, Bool.not_true, Bool.false_or, List.all_eq_true] at hstarters
  have hstarter : standIn c ∈ standIns.filter fun c =>
      Unicode.Property.space.holds c || l.classes.any (·.begins c) := by
    refine List.mem_filter.2 ⟨standIn_mem c, ?_⟩
    rw [Bool.or_eq_true, List.any_eq_true, space_standIn]
    refine hc.imp id fun ⟨other, hother, hbegins⟩ => ⟨other, hother, ?_⟩
    rwa [TokenClass.begins, Regex.next?_standIn (hsingle other hother)]
  have hnext := hstarters (standIn c) hstarter
  rwa [space_standIn, Regex.next?_standIn (hsingle cls hcls)] at hnext

/-- Whether white space sets lexemes apart can be computed. -/
theorem setsApart_of_areApart (h : areApart l.classes = true) : l.SetsApart := by
  have hall := h
  simp only [areApart, Bool.and_eq_true, List.all_eq_true, List.any_eq_true] at hall
  obtain ⟨⟨⟨hsingle, hexists⟩, hone⟩, hpattern⟩ := hall
  have hbegins {cls : TokenClass κ} (hcls : cls ∈ l.classes) (c : Char) :
      cls.begins (standIn c) = cls.begins c := by
    rw [TokenClass.begins, TokenClass.begins, Regex.next?_standIn (hsingle cls hcls)]
  refine ⟨hsingle, fun cls hcls other hother c hc hc' => ?_, hexists, fun cls hcls hskip => ?_,
    fun cls hcls hskip stage hstage hstops c hspace => ?_,
    fun cls hcls hskip stage hstage hstops other hother c hc spot hspot => ?_⟩
  -- at most one class begins with the character that stands in for this one
  · have hmem {cls : TokenClass κ} (hcls : cls ∈ l.classes) (hc : cls.begins c = true) :
        cls ∈ l.classes.filter (·.begins (standIn c)) :=
      List.mem_filter.2 ⟨hcls, (hbegins hcls c).trans hc⟩
    have hlength := of_decide_eq_true (hone (standIn c) (standIn_mem c))
    have hfirst := hmem hcls hc
    have hsecond := hmem hother hc'
    generalize l.classes.filter (·.begins (standIn c)) = found at hlength hfirst hsecond
    match found with
    | [] => nomatch hfirst
    | [only] => exact (List.mem_singleton.1 hfirst).trans (List.mem_singleton.1 hsecond).symm
    | _ :: _ :: _ => simp at hlength
  · have hif := hpattern cls hcls
    rw [if_pos hskip] at hif
    exact of_decide_eq_true hif
  · have hnone := all_starters_of_areApart h hcls hskip hstage hstops (Or.inl hspace)
    rw [if_pos hspace] at hnone
    exact Option.isNone_iff_eq_none.1 hnone
  · have hnext := all_starters_of_areApart h hcls hskip hstage hstops (Or.inr ⟨other, hother, hc⟩)
    rw [hspot] at hnext
    split at hnext
    · nomatch hnext
    · exact hnext

end Lexer

end Descent
