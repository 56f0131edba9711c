import Descent.Text.Position

/-!
# Tokens

A token is a classified piece of a text together with the place it was cut from. Its kind is of any
type with decidable equality.
-/

namespace Descent

/-- A classified lexeme. -/
structure Token (κ : Type) where
  kind : κ
  value : String
  location : Location
  /-- How many bytes of the text come before the lexeme. -/
  offset : Nat
deriving DecidableEq, Repr

namespace Token

variable {κ : Type}

/-- The bytes that the lexeme takes. -/
def span (t : Token κ) : Span := ⟨t.offset, t.value.utf8ByteSize⟩

end Token

end Descent
