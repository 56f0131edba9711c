import Descent.Fold.Clause
import Descent.Rule.Action
import Descent.Rule.Fuel
import Descent.Rule.Primitive
import Descent.Settings
import Descent.Language.NumberList
import Descent.Language.Calculator
import Descent.Language.JsonDocument
import Descent.Proofs.Atomicity
import Descent.Proofs.Consumption
import Descent.Proofs.Places
import Descent.Proofs.Lexer.Tokens
import Descent.Proofs.Lexer.Reference
import Descent.Proofs.Lexer.Join
import Descent.Proofs.Lexer.Gap
import Descent.Proofs.Lexer.Lexemes
import Descent.Proofs.Rule.Policy
import Descent.Proofs.Rule.Calls
import Descent.Proofs.Rule.Cuts
import Descent.Proofs.Rule.Pruning
import Descent.Proofs.Rule.Circles
import Descent.Proofs.Rule.Termination
import Descent.Proofs.Rule.Forward
import Descent.Proofs.Rule.Names
import Descent.Proofs.Rule.Choice
import Descent.Proofs.Rule.Relabel
import Descent.Proofs.Rule.Ends
import Descent.Proofs.Rule.Repetition
import Descent.Proofs.Rule.Bracket
import Descent.Proofs.Fold.Postorder
import Descent.Proofs.Fold.Overwrite
import Descent.Proofs.Fold.Recursion
import Descent.Proofs.Fold.Removal
import Descent.Proofs.Json.Members
import Descent.Proofs.Calculator.Syntax
import Descent.Proofs.Calculator.Value
import Descent.Proofs.JsonDocument.Syntax
import Descent.Proofs.Language.WhiteSpace
import Descent.Proofs.Language.Literals
import Descent.Proofs.Lexer.Restart
import Descent.Proofs.Json.Rebuild
