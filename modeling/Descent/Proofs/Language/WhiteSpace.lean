import Descent.Proofs.Calculator.Value
import Descent.Proofs.Language.Lexers
import Descent.Proofs.Lexer.Spacing
import Descent.Proofs.Rule.Retelling

/-!
# White space in the example languages

White space sets the lexemes of the example languages apart, and their grammars make values of the
kinds and texts of tokens only. So a text in which the chunks are spaced differently has tokens that
say the same, and is parsed to the same value as the first one, or like it not at all
(`languages_ignoreSpacing`).
-/

namespace Descent

variable {κ ν μ : Type}

/-- Whether the white space between the chunks of a lexer has no influence on the kinds and texts of
tokens and on the values of a parse. -/
def Lexer.IgnoresSpacing (l : Lexer κ) (parse? : String → Option (Except Error ν)) : Prop :=
  ∀ source source' ts, l.tokenize source = .ok ts →
    Lexer.Respaced (l.chunks source.toList).1 source'.toList →
      ∃ ts' r r', l.tokenize source' = .ok ts' ∧ ts'.map Token.lexeme = ts.map Token.lexeme ∧
        parse? source = some r ∧ parse? source' = some r' ∧ SameValue r r'

/-- Spacing does not matter to a textual grammar without left recursion, behind a lexer that has its
lexemes set apart. -/
theorem Parser.ignoresSpacing [DecidableEq κ] {P : Parser κ ν} {l : Lexer κ} (hlexer : P.lexer = l)
    (h : l.SetsApart) (halternates : l.Alternates) (hcomposed : P.grammar.Composed P.root)
    (hroot : P.root.Textual) (depths : Nat → Nat)
    (hdefinitions : ∀ id body, P.grammar.definition? id = some body →
      body.Textual ∧ body.leftDepth depths < depths id) (f : ν → μ) :
    l.IgnoresSpacing fun source => ((P.run source).map (·.map f)).map (·.result) := by
  subst hlexer
  intro source source' ts hts hspaced
  obtain ⟨ts', hts', hlexemes⟩ := h.tokenize_respaced halternates hts hspaced
  have hends (ts : List (Token κ)) : ∃ s, P.grammar.consume P.root ts .start = some s :=
    Grammar.exists_consume_of_leftDepth hcomposed depths
      (fun id body hd => (hdefinitions id body hd).2) ts .start
  obtain ⟨r, r', hr, hr', hsame⟩ := P.exists_parse?_of_lexemes
    (fun id body hd => (hdefinitions id body hd).1) hroot hends hts hts' hlexemes
  refine ⟨ts', r.map f, r'.map f, hts', hlexemes, ?_, ?_, hsame.map f⟩
  · exact (P.result_map f source).trans (by rw [hr, Option.map_some])
  · exact (P.result_map f source').trans (by rw [hr', Option.map_some])

theorem setsApart_lexers :
    NumberList.lexer.SetsApart ∧ Calculator.lexer.SetsApart ∧ JsonDocument.lexer.SetsApart := by
  have hapart : Lexer.areApart NumberList.lexer.classes = true ∧
      Lexer.areApart Calculator.lexer.classes = true ∧
        Lexer.areApart JsonDocument.lexer.classes = true := by
    decide +kernel
  exact hapart.imp Lexer.setsApart_of_areApart
    (And.imp Lexer.setsApart_of_areApart Lexer.setsApart_of_areApart)

theorem Token.value_eq_of_lexeme {t t' : Token κ} (h : t.lexeme = t'.lexeme) : t.value = t'.value :=
  congrArg Prod.snd h

/-! ## Number lists -/

namespace NumberList

theorem textual_mark (kind : Kind) : (mark kind).Textual := .token kind fun _ _ _ => rfl

theorem textual_number : number.Textual :=
  .label "number" <| .token Kind.number fun t t' h => by rw [Token.value_eq_of_lexeme h]

theorem textual_root : root.Textual := by
  refine .sequence _ fun part hpart => ?_
  simp only [List.mem_cons, List.not_mem_nil, or_false] at hpart
  obtain rfl | rfl | rfl := hpart
  · exact textual_mark .leftBracket
  · exact .optional _ (.list _ _ textual_number)
  · exact textual_mark .rightBracket

theorem ignoresSpacing_run : lexer.IgnoresSpacing fun source => (run source).map (·.result) := by
  refine Parser.ignoresSpacing (by rw [parser]) setsApart_lexers.1 alternates_lexer
    (Grammar.composed_of_isPlain rfl rfl) textual_root (fun _ => 0) ?_ Part.floats
  -- there are no definitions
  intro id body hd
  nomatch hd

end NumberList

/-! ## The calculator -/

namespace Calculator

theorem textual_number : number.Textual :=
  .label "number" <| .token Kind.number fun t t' h => by rw [Token.value_eq_of_lexeme h]

theorem textual_operator : operator.Textual := by
  refine .label "operator" <| .choice fun alternative halternative => ?_
  obtain ⟨kind, -, rfl⟩ := List.mem_map.1 halternative
  exact .token kind fun t t' h => by rw [Token.value_eq_of_lexeme h]

theorem textual_expression : expression.Textual := by
  refine .sequence _ fun part hpart => ?_
  simp only [List.mem_cons, List.not_mem_nil, or_false] at hpart
  obtain rfl | rfl | rfl := hpart
  · exact textual_number
  · exact textual_operator
  · refine .choice fun alternative halternative => ?_
    simp only [List.mem_cons, List.not_mem_nil, or_false] at halternative
    obtain rfl | rfl := halternative
    · exact .ref 0
    · exact textual_number

theorem ignoresSpacing_run : lexer.IgnoresSpacing fun source => (run source).map (·.result) := by
  refine Parser.ignoresSpacing (by rw [parser]) setsApart_lexers.2.1 alternates_lexer
    (Grammar.composed_of_isPlain rfl rfl) (.label "expression" (.ref 0)) (fun _ => 3) ?_
    Part.toValue
  rintro (_ | id) body hd
  · obtain rfl := Option.some.inj hd
    exact ⟨textual_expression, Nat.lt_succ_self 2⟩
  · cases hd

end Calculator

/-! ## JSON documents -/

namespace JsonDocument

theorem textual_mark (kind : Kind) : (mark kind).Textual := .token kind fun _ _ _ => rfl

theorem textual_word (kind : Kind) (v : Value) : (word kind v).Textual :=
  .token kind fun _ _ _ => rfl

theorem textual_bracketed (left right : Kind) {item : Rule Kind Part} (build : List Part → Value)
    (h : item.Textual) : (bracketed left right item build).Textual := by
  refine .sequence _ fun part hpart => ?_
  simp only [List.mem_cons, List.not_mem_nil, or_false] at hpart
  obtain rfl | rfl | rfl := hpart
  · exact textual_mark left
  · exact .optional _ (.list _ _ h)
  · exact textual_mark right

variable (meaning : Meaning)

theorem textual_string : (string meaning).Textual :=
  .token Kind.string fun t t' h => by rw [Token.value_eq_of_lexeme h]

theorem textual_number : (number meaning).Textual :=
  .token Kind.number fun t t' h => by rw [Token.value_eq_of_lexeme h]

theorem textual_entry : (entry meaning).Textual := by
  refine .sequence _ fun part hpart => ?_
  simp only [List.mem_cons, List.not_mem_nil, or_false] at hpart
  obtain rfl | rfl | rfl := hpart
  · exact textual_string meaning
  · exact textual_mark .colon
  · exact .ref 0

theorem textual_object : (object meaning).Textual :=
  .label "object" (textual_bracketed _ _ _ (textual_entry meaning))

theorem textual_array : array.Textual := .label "array" (textual_bracketed _ _ _ (.ref 0))

theorem textual_anyValue : (anyValue meaning).Textual := by
  refine .label "value" <| .choice fun alternative halternative => ?_
  simp only [List.mem_cons, List.not_mem_nil, or_false] at halternative
  obtain rfl | rfl | rfl | rfl | rfl | rfl | rfl := halternative
  · exact .map _ (textual_string meaning)
  · exact textual_number meaning
  · exact textual_word .true (.bool Bool.true)
  · exact textual_word .false (.bool Bool.false)
  · exact textual_word .null .null
  · exact textual_object meaning
  · exact textual_array

theorem textual_root (policy : ErrorPolicy) : (parser meaning policy).root.Textual := by
  refine .label "object or array" <| .choice fun alternative halternative => ?_
  simp only [List.mem_cons, List.not_mem_nil, or_false] at halternative
  obtain rfl | rfl := halternative
  · exact textual_object meaning
  · exact textual_array

theorem ignoresSpacing_runWith (policy : ErrorPolicy) :
    lexer.IgnoresSpacing fun source => (runWith meaning policy source).map (·.result) := by
  refine Parser.ignoresSpacing (by rw [parser]) setsApart_lexers.2.2 alternates_lexer
    (Grammar.composed_of_isPlain rfl rfl) (textual_root meaning policy) (fun _ => 5) ?_ Part.toValue
  rintro (_ | id) body hd
  · obtain rfl := Option.some.inj hd
    exact ⟨textual_anyValue meaning, Nat.lt_succ_self 4⟩
  · nomatch hd

end JsonDocument

/-! ## All of them -/

/-- A text of one of the example languages is parsed to the same value, or like it not at all, if
its chunks are spaced differently. -/
theorem languages_ignoreSpacing :
    (NumberList.lexer.IgnoresSpacing fun source => (NumberList.run source).map (·.result)) ∧
      (Calculator.lexer.IgnoresSpacing fun source => (Calculator.run source).map (·.result)) ∧
      ∀ policy, JsonDocument.lexer.IgnoresSpacing fun source =>
        (JsonDocument.run policy source).map (·.result) :=
  ⟨NumberList.ignoresSpacing_run, Calculator.ignoresSpacing_run,
    JsonDocument.ignoresSpacing_runWith .standard⟩

/-- A list of two numbers with a space before the comma, and the same list with line ends for the
space and more white space in front, within and behind. -/
theorem ignoresSpacing_numbers :
    let source := "[1 ,-2.5]"
    let source' := "\u00a0[ 1\n\n,-2.5]\t"
    let ts : List (Token NumberList.Kind) :=
      [⟨.leftBracket, "[", ⟨⟨0, 0⟩, ⟨0, 1⟩⟩, 0⟩, ⟨.number, "1", ⟨⟨0, 1⟩, ⟨0, 2⟩⟩, 1⟩,
       ⟨.comma, ",", ⟨⟨0, 3⟩, ⟨0, 4⟩⟩, 3⟩, ⟨.number, "-2.5", ⟨⟨0, 4⟩, ⟨0, 8⟩⟩, 4⟩,
       ⟨.rightBracket, "]", ⟨⟨0, 8⟩, ⟨0, 9⟩⟩, 8⟩]
    NumberList.lexer.tokenize source = .ok ts ∧
      Lexer.Respaced (NumberList.lexer.chunks source.toList).1 source'.toList ∧
      ∃ ts' r r', NumberList.lexer.tokenize source' = .ok ts' ∧
        ts'.map Token.lexeme = ts.map Token.lexeme ∧
        (NumberList.run source).map (·.result) = some r ∧
        (NumberList.run source').map (·.result) = some r' ∧ SameValue r r' := by
  intro source source' ts
  have hts : NumberList.lexer.tokenize source = .ok ts := by
    set_option maxRecDepth 4000 in decide
  let cls (kind : NumberList.Kind) (pattern : String) (skip : Bool) : TokenClass NumberList.Kind :=
    ⟨kind, (Regex.ofText? pattern.toList).getD .empty, skip⟩
  let chunks : List (Lexer.Chunk NumberList.Kind) :=
    [⟨cls .leftBracket "\\[" false, "[".toList⟩,
     ⟨cls .number "-?\\d+(?:\\.\\d+)?" false, "1".toList⟩,
     ⟨cls .space "\\s+" true, " ".toList⟩,
     ⟨cls .comma "," false, ",".toList⟩,
     ⟨cls .number "-?\\d+(?:\\.\\d+)?" false, "-2.5".toList⟩,
     ⟨cls .rightBracket "\\]" false, "]".toList⟩]
  have hchunks : (NumberList.lexer.chunks source.toList).1 = chunks := by
    set_option maxRecDepth 4000 in decide
  have htext : source'.toList = ['\u00a0'] ++ ("[".toList ++ ([' '] ++ ("1".toList ++
      ([] ++ (['\n', '\n'] ++ ([] ++ (",".toList ++ ([] ++ ("-2.5".toList ++
        ([] ++ ("]".toList ++ ['\t']))))))))))) := by decide
  have hspaced : Lexer.Respaced chunks source'.toList := by
    rw [htext]
    exact
      .keep (by decide) rfl <| .keep (by decide) rfl <| .skip .nil (by decide) nofun rfl <|
      .keep .nil rfl <| .keep .nil rfl <| .keep .nil rfl <| .done (by decide)
  rw [← hchunks] at hspaced
  exact ⟨hts, hspaced, languages_ignoreSpacing.1 source source' ts hts hspaced⟩

end Descent
