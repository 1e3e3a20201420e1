import Treegram.Builtin.Pieces

/-!
What new notations are described with: fixity and precedence, and the parts of a
syntax description.
-/

namespace Treegram.Builtin

open Rule

def items : Rule := many1 (ref "syntax_p")

/-- A list with a separator, described between parentheses. -/
def separated (opening : String) : Rule :=
  seq [
    lit opening, items, lit ",", ref "str_lit", maybe (seq [lit ",", items]),
    maybe (seq [lit ",", lit "allowTrailingSep"]), lit ")"]

def fixities : Entries := [
  ("mixfix_kind", choice [lit "prefix", lit "infix", lit "infixl", lit "infixr", lit "postfix"]),
  ("named_name", seq [lit "(", lit "name", ref "defeq", ref "ident", lit ")"]),
  ("notation_item", choice [ref "str_lit", seq [ref "ident", maybe (ref "precedence")]]),
  ("kind", seq [lit "(", lit "kind", ref "defeq", ref "ident", lit ")"]),
  ("precedence", seq [lit ":", ref "num_lit"])]

def descriptions : Entries := [
  ("paren", seq [lit "(", items, lit ")"]),
  ("cat", precRight 0 (seq [ref "ident", maybe (ref "precedence")])),
  ("unary", seq [ref "ident", immediateToken (lit "("), items, lit ")"]),
  ("binary", seq [ref "ident", immediateToken (lit "("), items, lit ",", items, lit ")"]),
  ("sep_by", separated "sepBy("),
  ("sep_by_1", separated "sepBy1("),
  ("atom", ref "str_lit"),
  ("non_reserved", seq [lit "&", ref "str_lit"])]

def notations : Entries := fixities ++ descriptions ++ [("syntax_p", anyOf descriptions)]

end Treegram.Builtin
