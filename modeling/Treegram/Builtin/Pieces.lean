import Treegram.Rule.Combinators

/-!
Pieces that the rules of the built-in grammar share. The language it describes goes by
layout: a block is as wide as the column of its first item allows. Columns are the
scanner's business, so the rules only put its marks around and between the items.
-/

namespace Treegram.Builtin

open Rule

/-- Rules with their names. -/
abbrev Entries := List (String × Rule)

def lit (text : String) : Rule := Rule.string text

def ref (name : String) : Rule := Rule.symbol name

def maybe (content : Rule) : Rule := Rule.optional content

/-- A reference to any of the rules of a list. -/
def anyOf (entries : Entries) : Rule := oneOf (entries.map (·.1))

/-- Items that begin in one column. -/
def aligned (item : Rule) : Rule :=
  seq [ref "_push_col", sepBy1 item (ref "_eq_col_start"), ref "_pop_col"]

def alignedIfAny (item : Rule) : Rule := maybe (aligned item)

/-- Items that begin in one column or have a separator between them. -/
def alignedOrSplitBy (item separator : Rule) : Rule :=
  seq [ref "_push_col", sepBy1 item (choice [ref "_eq_col_start", separator]), ref "_pop_col"]

def statements (item : Rule) : Rule := alignedOrSplitBy item (lit ";")

def statementsIfAny (item : Rule) : Rule := maybe (statements item)

def typeIfAny : Rule := maybe (ref "type_spec")

def labelIfAny : Rule := maybe (seq [ref "ident", lit ":"])

def binders : Rule := many (choice [ref "binder_ident", ref "bracketed_binder"])

/-- Binders and a type. -/
def signature : Rule := seq [binders, ref "type_spec"]

/-- Binders and a type that may be left out. -/
def looseSignature : Rule := seq [binders, typeIfAny]

def idents : Rule := many1 (ref "ident")

def identList : Rule := sepBy1 (ref "ident") (lit ",")

/-- What may stand before a declaration, in this order. -/
def modifiers : Rule :=
  seq [
    maybe (ref "documentation"), maybe (ref "attributes"), maybe (ref "visibility"),
    maybe (ref "noncomputable"), maybe (lit "unsafe"),
    maybe (choice [lit "partial", lit "nonrec"])]

/-- Where an attribute holds; the word becomes a node of its own. -/
def attributeScope : Rule := maybe (aliased (choice [lit "scoped", lit "local"]) "attr_kind" true)

def optionValue : Rule := choice [lit "true", lit "false", ref "str_lit", ref "num_lit"]

end Treegram.Builtin
