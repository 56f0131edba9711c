import Descent.Regex.CharClass
import Descent.Regex.Place

/-!
# Anchors

Conditions on a place: the ends of the text and of its lines, and where words begin and end.
-/

namespace Descent

/-- A condition on a place that takes no characters. -/
inductive Anchor where
  | textStart
  | textEnd
  /-- The start of a line; with `crlf`, a carriage return ends lines too. -/
  | lineStart (crlf : Bool)
  /-- The end of a line; with `crlf`, a carriage return ends lines too. -/
  | lineEnd (crlf : Bool)
  /-- A word begins or ends here. -/
  | wordBoundary (unicode : Bool)
  | notWordBoundary (unicode : Bool)
  | wordStart (unicode : Bool)
  | wordEnd (unicode : Bool)
  /-- No word character on the left. -/
  | wordStartHalf (unicode : Bool)
  /-- No word character on the right. -/
  | wordEndHalf (unicode : Bool)
deriving DecidableEq, Repr

namespace Anchor

/-- Whether a neighbour of a place is a word character. -/
def isWord (unicode : Bool) (neighbour : Option Char) : Bool :=
  neighbour.any (CharClass.word unicode).holds

/-- Whether the condition holds at a place. -/
def holds : Anchor → Place → Bool
  | textStart, p => p.before.isEmpty
  | textEnd, p => p.after.isEmpty
  | lineStart false, p => p.left?.all (· == '\n')
  | lineStart true, p =>
    p.left?.all fun c => c == '\n' || (c == '\r' && p.right? != some '\n')
  | lineEnd false, p => p.right?.all (· == '\n')
  | lineEnd true, p =>
    p.right?.all fun c => c == '\r' || (c == '\n' && p.left? != some '\r')
  | wordBoundary u, p => isWord u p.left? != isWord u p.right?
  | notWordBoundary u, p => isWord u p.left? == isWord u p.right?
  | wordStart u, p => !isWord u p.left? && isWord u p.right?
  | wordEnd u, p => isWord u p.left? && !isWord u p.right?
  | wordStartHalf u, p => !isWord u p.left?
  | wordEndHalf u, p => !isWord u p.right?

end Anchor

end Descent
