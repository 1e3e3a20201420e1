import Treegram.Rule.Basic

/-!
The constructors grammars are written with. Each one sets exactly the parts that
its kind needs.
-/

namespace Treegram.Rule

def blank : Rule := { kind := .blank }

def string (text : String) : Rule := { kind := .string, value := some (.text text) }

def pattern (source : String) : Rule := { kind := .pattern, value := some (.text source) }

def flaggedPattern (source flags : String) : Rule := { pattern source with flags := some flags }

def symbol (name : String) : Rule := { kind := .symbol, name := some name }

def seq (members : List Rule) : Rule := { kind := .seq, members }

def choice (members : List Rule) : Rule := { kind := .choice, members }

def wrap (kind : Kind) (content : Rule) : Rule := { kind, content := some content }

def many (content : Rule) : Rule := wrap .many content

def many1 (content : Rule) : Rule := wrap .many1 content

/-- Absence is the last alternative. -/
def optional (content : Rule) : Rule := choice [content, blank]

def levelled (kind : Kind) (number : Int32) (content : Rule) : Rule :=
  { wrap kind content with value := some (.level number) }

def prec (number : Int32) (content : Rule) : Rule := levelled .prec number content

def precLeft (number : Int32) (content : Rule) : Rule := levelled .precLeft number content

def precRight (number : Int32) (content : Rule) : Rule := levelled .precRight number content

def precDynamic (number : Int32) (content : Rule) : Rule := levelled .precDynamic number content

def field (name : String) (content : Rule) : Rule := { wrap .field content with name := some name }

/-- A named alias makes a named node, any other one an anonymous node. -/
def aliased (content : Rule) (name : String) (named : Bool) : Rule :=
  { wrap .aliased content with value := some (.text name), named := some named }

def token (content : Rule) : Rule := wrap .token content

def immediateToken (content : Rule) : Rule := wrap .immediateToken content

/-- One or more items with a separator between neighbours. -/
def sepBy1 (item separator : Rule) : Rule := seq [item, many (seq [separator, item])]

def sepBy (item separator : Rule) : Rule := optional (sepBy1 item separator)

def oneOf (names : List String) : Rule := choice (names.map symbol)

end Treegram.Rule
