import Mathlib.Control.Monad.Basic
import Descent.Proofs.Json.Members
import Descent.Proofs.JsonDocument.Completeness
import Descent.Proofs.JsonDocument.Soundness
import Descent.Proofs.Parse

/-!
# What the JSON parser accepts

A document is accepted just if its tokens can be derived and all its strings and numbers denote
something, and the result is what the derivation denotes. Everything else is an error of the grammar
or a complaint about tokens left over: which of the two may depend on where the recovery inside
brackets leads, but the recovery never makes a document out of what is none.
-/

namespace Descent.JsonDocument

open Consumer

variable {m : Meaning} {policy : ErrorPolicy} {source : String} {ts : List (Token Kind)}
  {v : Value}

theorem parser_tokenize (hts : lexer.tokenize source = .ok ts) :
    (parser m policy).lexer.tokenize source = .ok ts := by
  have hlexer : (parser m policy).lexer = lexer := by rw [parser]
  rw [hlexer, hts]

theorem fuelFor_root (m : Meaning) (policy : ErrorPolicy) (ts : List (Token Kind)) :
    8 * ts.length + 8 ≤ (parser m policy).grammar.fuelFor (parser m policy).root ts := by
  have hsize : (parser m policy).grammar.size + (parser m policy).root.size = 44 := rfl
  rw [Grammar.fuelFor, hsize]
  omega

/-- A text with a derivation that denotes a value gives that value. -/
theorem parse?_of_derivation (hts : lexer.tokenize source = .ok ts) (d : Derivation .document ts)
    (hd : d.value? m = some v) : (parser m policy).parse? source = some (.ok (.value v)) := by
  have hfuel := fuelFor_root m policy ts
  have hreads : Reads m policy (8 * ts.length + 6) ts .document 0 v ts.length :=
    reads_of_derivation d hd (.all ts) (Nat.le_refl _)
  have hroot : Yields ((grammar m policy).run (8 * ts.length + 7) (parser m policy).root) ts .start
      (.value v) ts.length := .named "object or array" hreads
  exact Parser.parse?_of_yields (parser_tokenize hts) (by omega) hroot (Nat.le_refl _)

/-- A text that has tokens gives a value that a derivation denotes, or an error of the grammar, or a
complaint about tokens left over. -/
theorem parse?_cases (m : Meaning) (policy : ErrorPolicy) (hts : lexer.tokenize source = .ok ts) :
    (∃ v, (parser m policy).parse? source = some (.ok (.value v)) ∧
        ∃ d : Derivation .document ts, d.value? m = some v) ∨
      (∃ e, (parser m policy).parse? source = some (.error (.parse e))) ∨
      ∃ found position span,
        (parser m policy).parse? source = some (.error (.trailing found position span)) := by
  have hfuel := fuelFor_root m policy ts
  have hdecides : Decides ((grammar m policy).run (8 * ts.length + 8) (parser m policy).root) ts
      .start fun part q => ∃ v, part = .value v ∧ Denotes m ts .document 0 v q :=
    .named "object or array" (document_decides (Nat.le_refl _))
  rcases hdecides with ⟨_, q, hroot, v, rfl, seg, hseg, d, hd⟩ | hroot
  · -- a derivation of all tokens is one of the document, one of fewer leaves a token over
    by_cases hq : ts.length ≤ q
    · obtain rfl := hseg.eq_all hq
      have hparse := Parser.parse?_of_yields (parser_tokenize hts) (by omega) hroot hq
      exact Or.inl ⟨v, hparse, d, hd⟩
    · have hparse := Parser.parse?_of_yields_short (parser_tokenize hts) (by omega) hroot
        (Nat.lt_of_not_le hq)
      exact Or.inr (Or.inr ⟨_, _, _, hparse⟩)
  · exact Or.inr (Or.inl (Parser.parse?_of_fails (parser_tokenize hts) (by omega) hroot.fails))

/-- Whatever strings and numbers mean and whatever errors choices report, a parse of a text that has
tokens ends, and with a value just if its tokens are derived and its strings and numbers mean
something. The value is what any derivation denotes; in it an object has under each key the last of
the members with that key. A parse without a value is an error of the grammar or a complaint about
tokens left over. -/
theorem runWith_eq_ok_iff (m : Meaning) (policy : ErrorPolicy)
    (hts : lexer.tokenize source = .ok ts) :
    ∃ result, (runWith m policy source).map (·.result) = some result ∧
      ((∃ v, result = .ok v) ↔ Nonempty (Derivation .document ts) ∧ ∀ t ∈ ts, m.Accepts t) ∧
      (∀ v, result = .ok v → ∀ d : Derivation .document ts, d.value? m = some v) ∧
      ((∃ v, result = .ok v) ∨ (∃ e, result = .error (.parse e)) ∨
        ∃ found position span, result = .error (.trailing found position span)) ∧
      ∀ members key, (Value.ofMembers members).get? key
        = (members.reverse.find? (·.1 == key)).map (·.2) := by
  have hrun : (runWith m policy source).map (·.result)
      = ((parser m policy).parse? source).map fun result => result.map Part.toValue := by
    rw [runWith, Parser.parse?, Option.map_map, Option.map_map]
    rfl
  -- tokens that are derived and mean something give a value, so no error can be right for them
  have hderived : ∀ d : Derivation .document ts, (∀ t ∈ ts, m.Accepts t) →
      ∃ v, d.value? m = some v ∧ (parser m policy).parse? source = some (.ok (.value v)) := by
    intro d haccepts
    obtain ⟨v, hv⟩ := Option.isSome_iff_exists.1 (d.isSome_value?_iff.2 haccepts)
    exact ⟨v, hv, parse?_of_derivation hts d hv⟩
  have herror : ∀ e, (parser m policy).parse? source = some (.error e) →
      ¬(Nonempty (Derivation .document ts) ∧ ∀ t ∈ ts, m.Accepts t) := by
    rintro e he ⟨⟨d⟩, haccepts⟩
    obtain ⟨v, -, hv⟩ := hderived d haccepts
    rw [he] at hv
    nomatch hv
  rcases parse?_cases m policy hts with ⟨v, hv, d, hd⟩ | ⟨e, he⟩ | ⟨found, position, span, he⟩
  · have haccepts := d.isSome_value?_iff.1 (Option.isSome_iff_exists.2 ⟨v, hd⟩)
    refine ⟨.ok v, by rw [hrun, hv]; rfl, iff_of_true ⟨v, rfl⟩ ⟨⟨d⟩, haccepts⟩, ?_,
      Or.inl ⟨v, rfl⟩, Value.get?_ofMembers⟩
    intro w hw d'
    obtain ⟨v', hv', hparse⟩ := hderived d' haccepts
    rw [hv] at hparse
    obtain rfl := Except.ok.inj hw
    rw [hv', Part.value.inj (Except.ok.inj (Option.some.inj hparse))]
  · exact ⟨.error (.parse e), by rw [hrun, he]; rfl, iff_of_false nofun (herror _ he), nofun,
      Or.inr (Or.inl ⟨e, rfl⟩), Value.get?_ofMembers⟩
  · exact ⟨.error (.trailing found position span), by rw [hrun, he]; rfl,
      iff_of_false nofun (herror _ he), nofun, Or.inr (Or.inr ⟨found, position, span, rfl⟩),
      Value.get?_ofMembers⟩

/-- An object in which a key comes twice, the second time with an empty array. -/
theorem runWith_eq_ok_iff_repeated_key :
    let token (kind : Kind) (text : String) (offset : Nat) : Token Kind :=
      ⟨kind, text, ⟨⟨0, offset⟩, ⟨0, offset + text.length⟩⟩, offset⟩
    let ts : List (Token Kind) :=
      [token .leftCurly "\x7b" 0, token .string "\"k\"" 1, token .colon ":" 4, token .number "1" 5,
        token .comma "," 6, token .string "\"k\"" 7, token .colon ":" 10, token .leftSquare "[" 11,
        token .rightSquare "]" 12, token .rightCurly "\x7d" 13]
    lexer.tokenize "\x7b\"k\":1,\"k\":[]\x7d" = .ok ts ∧
      (runWith .standard .furthest "\x7b\"k\":1,\"k\":[]\x7d").map (·.result)
        = some (.ok (.obj [("k", .arr [])])) := by
  intro token ts
  have hts : lexer.tokenize "\x7b\"k\":1,\"k\":[]\x7d" = .ok ts := by
    set_option maxRecDepth 4000 in decide
  refine ⟨hts, ?_⟩
  obtain ⟨result, hresult, hiff, hvalue, -, -⟩ := runWith_eq_ok_iff .standard .furthest hts
  let d : Derivation .document ts :=
    .documentObject (.fullObject _ _ rfl rfl
      (.moreMembers _ rfl (.member _ _ rfl rfl (.scalar _ (by decide)))
        (.lastMember (.member _ _ rfl rfl (.array (.emptyArray _ _ rfl rfl))))))
  have hd : d.value? .standard = some (.obj [("k", .arr [])]) := by
    simp only [d, token]
    rfl
  obtain ⟨v, rfl⟩ := hiff.2 ⟨⟨d⟩, d.isSome_value?_iff.1 (Option.isSome_iff_exists.2 ⟨_, hd⟩)⟩
  rw [hresult, ← Option.some.inj ((hvalue v rfl d).symm.trans hd)]

end Descent.JsonDocument
