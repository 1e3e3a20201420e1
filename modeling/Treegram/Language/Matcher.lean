import Treegram.Pattern.Marked
import Treegram.Pattern.Reader

/-!
How a token recognizes its text: as a literal or by a pattern. Both tell the length
in bytes of the longest match at the front of a text, and neither matches nothing.
-/

namespace Treegram

/-- The number of bytes a text takes. -/
def byteLength (text : List Char) : Nat := text.foldr (·.utf8Size + ·) 0

inductive Matcher where
  | literal (text : String)
  | pattern (source : String) (term : Pattern.Term)
  deriving DecidableEq

namespace Matcher

def ofPattern? (limits : Pattern.Limits) (source : String) : Option Matcher :=
  (Pattern.Term.read? limits source.toList).map (pattern source)

def isLiteral : Matcher → Bool
  | literal _ => true
  | pattern _ _ => false

def literalText? : Matcher → Option String
  | literal text => some text
  | pattern _ _ => none

def length? (text : List Char) : Matcher → Option Nat
  | literal wanted =>
      if wanted.toList ≠ [] ∧ wanted.toList.isPrefixOf text then some (byteLength wanted.toList)
      else none
  | pattern _ term => term.longest? text

end Matcher

end Treegram
