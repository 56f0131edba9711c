import Descent.Language.JsonDocument
import Descent.Language.NumberList
import Descent.Proofs.Lexer.Join

/-!
# The lexers of the example languages

The lexers of number lists and of JSON documents come of their declarations, and their joined
patterns are the alternatives of the patterns declared, as those of the calculator are.
-/

namespace Descent

theorem NumberList.build_definitions :
    Lexer.build NumberList.definitions = .ok NumberList.lexer := by
  set_option maxRecDepth 4000 in decide

theorem NumberList.alternates_lexer : NumberList.lexer.Alternates :=
  Lexer.alternates_of_closes build_definitions (by decide)

theorem JsonDocument.build_definitions :
    Lexer.build JsonDocument.definitions = .ok JsonDocument.lexer := by
  set_option maxRecDepth 4000 in decide

theorem JsonDocument.alternates_lexer : JsonDocument.lexer.Alternates :=
  Lexer.alternates_of_closes build_definitions (by decide)

end Descent
