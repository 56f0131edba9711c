import Descent.Proofs.Lexer.Join
import Descent.Proofs.Lexer.Reference
import Descent.Proofs.Lexer.Tokens

/-!
# What the text of a token can be

The text of a token is what the pattern of its class prefers to take at some place
(`Lexer.Alternates.exists_def_of_mem`). So the kind of a token says something about its text,
and where the pattern of the class is a single character, it says everything
(`Regex.take_of_matchAt?_single`).
-/

namespace Descent

/-- What a token says, apart from where it stands. -/
def Token.lexeme {κ : Type} (t : Token κ) : κ × String := (t.kind, t.value)

namespace Regex

/-- A single character matches if it stands at the place. -/
theorem matchAt?_one (chars : CharClass) (p : Place) :
    (one chars).matchAt? p = (p.right?.filter chars.holds).map fun _ => ⟨1, []⟩ := by
  obtain ⟨before, after⟩ := p
  cases after with
  | nil => rfl
  | cons c rest =>
    by_cases hc : chars.holds c
    · have hstart : (one chars).start ⟨before, c :: rest⟩ ⟨[], .fresh⟩ = .wait [] := by
        simp [start, Place.right?, Trail.passed, hc]
      -- behind the character no thread is left
      have hadvance : (one chars).advance ⟨c :: before, rest⟩ .fresh [⟨[], []⟩] = ([], some []) :=
        rfl
      have hend : ∀ m : Match, (one chars).follow (some m) 1 [] (c :: before) rest = some m :=
        fun m => by cases rest <;> rfl
      simp [matchAt?, hstart, Reach.wait, Reach.cut, Reach.threads, follow, hadvance, hend,
        Place.right?, Option.filter, hc]
    · have hstart : (one chars).start ⟨before, c :: rest⟩ ⟨[], .fresh⟩ = .nowhere := by
        simp [start, Place.right?, hc]
      simp [matchAt?, hstart, Reach.nowhere, Reach.cut, Reach.threads, follow, Place.right?,
        Option.filter, hc]

/-- The character that a match has taken is the one that the expression stands for. -/
theorem take_of_matchAt?_single {c : Char} {p : Place} {m : Match}
    (h : (one (.single c)).matchAt? p = some m) : p.after.take m.length = [c] := by
  rw [matchAt?_one, Option.map_eq_some_iff] at h
  obtain ⟨d, hd, rfl⟩ := h
  obtain ⟨hright, hholds⟩ := Option.filter_eq_some_iff.1 hd
  obtain ⟨rest, hafter⟩ := List.head?_eq_some_iff.1 hright
  have hcd : c ≤ d ∧ d ≤ c := by simpa [CharClass.single, CharClass.holds] using hholds
  rw [hafter, Char.le_antisymm hcd.1 hcd.2]
  rfl

end Regex

namespace Lexer

variable {κ : Type} {l : Lexer κ}

/-- Every chunk of a chain is what the lexer finds at some place. -/
theorem Chain.exists_matchAt? {p stop : Place} {chunks : List (Chunk κ)}
    (h : l.Chain p chunks stop) : ∀ chunk ∈ chunks, ∃ place n,
      l.matchAt? place = some (chunk.cls, n) ∧ chunk.text = place.after.take n := by
  induction h with
  | nil p => nofun
  | cons hm _ ih =>
    intro chunk hchunk
    rcases List.mem_cons.1 hchunk with rfl | hchunk
    · exact ⟨_, _, hm, rfl⟩
    · exact ih chunk hchunk

theorem exists_chunk_of_mem_tokensOf {chunks : List (Chunk κ)} {t : Token κ}
    (h : t ∈ tokensOf chunks) : ∃ chunk ∈ chunks,
      chunk.cls.skip = false ∧ chunk.cls.kind = t.kind ∧ String.ofList chunk.text = t.value := by
  obtain ⟨⟨chunk, i⟩, hentry, rfl⟩ := List.mem_map.1 h
  obtain ⟨hzip, hskip⟩ := List.mem_filter.1 hentry
  exact ⟨chunk, List.fst_mem_of_mem_zipIdx hzip, by simpa using hskip, rfl, rfl⟩

/-- A token is of a kind that is declared and not skipped, and its text is what the pattern declared
for it prefers to take at some place. -/
theorem Alternates.exists_def_of_mem [TokenKind κ] {defs : List (TokenDef κ)} (h : l.Alternates)
    (hl : build defs = .ok l) {source : String} {ts : List (Token κ)}
    (hts : l.tokenize source = .ok ts) {t : Token κ} (ht : t ∈ ts) :
    ∃ d ∈ defs, d.skip = false ∧ d.kind = t.kind ∧ ∃ r p m,
      Regex.ofText? d.pattern.toList = some r ∧ r.matchAt? p = some m ∧
        t.value = String.ofList (p.after.take m.length) := by
  obtain ⟨chunks, hchain, rfl⟩ := chain_of_tokenize hts
  obtain ⟨⟨cls, text⟩, hchunk, hskip, hkind, hvalue⟩ := exists_chunk_of_mem_tokensOf ht
  obtain ⟨p, n, hfound, rfl⟩ := hchain.exists_matchAt? _ hchunk
  rw [h.matchAt?_eq] at hfound
  obtain ⟨hcls, m, hm, rfl, -⟩ := exists_matchAt?_of_firstAt? hfound
  obtain ⟨d, hd, hread⟩ := Lexer.exists_def_of_mem hl hcls
  obtain ⟨r, hr, rfl⟩ := readClass_eq_ok_iff.1 hread
  exact ⟨d, hd, hskip, hkind, r, p, m, hr, hm, hvalue.symm⟩

end Lexer

end Descent
