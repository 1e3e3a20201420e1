import Treegram.Grammar.Basic
import Treegram.Json.Scalar
import Treegram.Json.Value

/-!
Written grammars. A grammar is encoded as a value tree in a fixed order of members;
parts that are not set, and an empty member list of a rule, are left out. How the
value of a rule is encoded is a parameter: bare in what is written, tagged in what
the reader works on. The text is the tagged tree with its tags taken off.
-/

namespace Treegram

/-- A member for a part that may be missing. -/
def writtenPart {α : Type} (key : String) (encode : α → Json.Value)
    (part : Option α) : List (String × Json.Value) :=
  (part.map fun content => (key, encode content)).toList

namespace Rule

def Value.bare : Rule.Value → Json.Value
  | .text content => .string content
  | .level number => .integer number.toInt

def Value.tagged : Rule.Value → Json.Value
  | .text content => .object [("String", .string content)]
  | .level number => .object [("Integer", .integer number.toInt)]

def encode (scalar : Rule.Value → Json.Value) : Rule → Json.Value :=
  fold fun rule content members =>
    .object <|
      [("type", .string rule.kind.tag)]
        ++ writtenPart "value" scalar rule.value
        ++ writtenPart "name" .string rule.name
        ++ writtenPart "content" id content
        ++ (if members.isEmpty then [] else [("members", .array members)])
        ++ writtenPart "named" .bool rule.named
        ++ writtenPart "flags" .string rule.flags
        ++ writtenPart "context_name" .string rule.context

end Rule

namespace Grammar

open Json (Value)

def encodeNames (names : List String) : Value := .array (names.map .string)

def encodeMap {α : Type} (encode : α → Value) (map : NameMap α) : Value :=
  .object (map.toList.map fun entry => (entry.1, encode entry.2))

def encode (scalar : Rule.Value → Value) (grammar : Grammar) : Value :=
  let rules (list : List Rule) : Value := .array (list.map (Rule.encode scalar))
  .object <|
    writtenPart "$schema" .string grammar.schema
      ++ [("name", .string grammar.name)]
      ++ writtenPart "inherits" .string grammar.inherits
      ++ [("rules", encodeMap (Rule.encode scalar) grammar.rules)]
      ++ writtenPart "extras" rules grammar.extras
      ++ writtenPart "externals" rules grammar.externals
      ++ writtenPart "inline" encodeNames grammar.inlined
      ++ writtenPart "precedences" (fun levels => .array (levels.map rules)) grammar.precedences
      ++ writtenPart "conflicts" (fun groups => .array (groups.map encodeNames)) grammar.conflicts
      ++ writtenPart "reserved" (encodeMap rules) grammar.reserved
      ++ writtenPart "word" .string grammar.word
      ++ writtenPart "supertypes" encodeNames grammar.supertypes

/-- The reference form: every value of a rule stands bare. -/
def plainText (grammar : Grammar) : List Char := (grammar.encode Rule.Value.bare).chars

def taggedText (grammar : Grammar) : List Char := (grammar.encode Rule.Value.tagged).chars

def text (grammar : Grammar) : String := String.ofList (Json.Scalar.untag grammar.taggedText)

end Grammar

end Treegram
