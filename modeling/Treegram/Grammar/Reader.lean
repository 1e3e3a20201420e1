import Treegram.Grammar.Basic
import Treegram.Json.Reader
import Treegram.Json.Scalar

/-!
Grammars from text: the scalars are tagged, the text is read as a value tree, and the
tree is decoded. Members are taken in their order, so of two with one key the later
one counts; keys that mean nothing here are passed over. `null` stands for the
empty content of a part, and for nothing where a rule or its kind is wanted. A truth
value and an integer may also be spelled as a text, and the kind of a rule as an
object whose key is the kind.
-/

namespace Treegram

open Json (Value)

namespace Json.Value

def bool? : Value → Option Bool
  | .bool value => some value
  | .string "true" => some true
  | .string "false" => some false
  | _ => none

def string? : Value → Option String
  | .string content => some content
  | .null => some ""
  | _ => none

def list? {α : Type} (item : Value → Option α) : Value → Option (List α)
  | .array items => items.mapM item
  | .null => some []
  | _ => none

def map? {α : Type} (item : Value → Option α) : Value → Option (NameMap α)
  | .object members =>
      (members.mapM fun member => (item member.2).map ((member.1, ·))).map fun pairs => .ofList pairs
  | .null => some ∅
  | _ => none

/-- A part that need not be there. -/
def part? {α : Type} (item : Value → Option α) : Value → Option (Option α)
  | .null => some none
  | value => (item value).map some

/-- An integer in the range of 32 bits. -/
def inLevelRange? (number : Int) : Option Int32 :=
  if -2147483648 ≤ number ∧ number < 2147483648 then some (Int32.ofInt number) else none

/-- An integer of 32 bits. -/
def level? : Value → Option Int32
  | .number decimal => decimal.integer?.bind inLevelRange?
  | .string content => (Json.spelledInteger? content.toList).bind inLevelRange?
  | .null => some 0
  | _ => none

end Json.Value

namespace Rule

def decodeValue? : Json.Value → Option Rule.Value
  | .object [("String", content)] => content.string?.map .text
  | .object [("Integer", content)] => content.level?.map .level
  | _ => none

mutual

/-- The kind that the keys of an object select, one after the other; what is selected already may
be followed by keys that are no kinds. -/
def selectKind? (selected : Option Kind) : List (String × Json.Value) → Option (Option Kind)
  | [] => some selected
  | (key, content) :: rest =>
      match Kind.ofTag? key with
      | some kind => (decodeSelected? kind content).bind fun kind => selectKind? (some kind) rest
      | none => if selected.isSome then selectKind? selected rest else none

/-- The content of a selected kind is an object, in which another kind may be selected. -/
def decodeSelected? (kind : Kind) : Json.Value → Option Kind
  | .object members => (selectKind? (some kind) members).join
  | _ => none

end

def decodeKind? : Json.Value → Option Kind
  | .string word => Kind.ofTag? word
  | .object members => (selectKind? none members).join
  | _ => none

/-- A rule whose kind is not known yet. -/
structure Partial where
  kind : Option Kind := none
  rule : Rule := { kind := .blank }

namespace Partial

def finish (part : Partial) : Option Rule := part.kind.map fun kind => { part.rule with kind }

def set (part : Partial) (change : Rule → Rule) : Partial := { part with rule := change part.rule }

/-- Takes in a member that holds no rule. -/
def take (part : Partial) (key : String) (value : Json.Value) : Option Partial :=
  match key with
  | "type" => (decodeKind? value).map fun kind => { part with kind := some kind }
  | "value" => (value.part? decodeValue?).map fun value => part.set ({ · with value })
  | "name" => (value.part? Json.Value.string?).map fun name => part.set ({ · with name })
  | "named" => (value.part? Json.Value.bool?).map fun named => part.set ({ · with named })
  | "flags" => (value.part? Json.Value.string?).map fun flags => part.set ({ · with flags })
  | "context_name" =>
      (value.part? Json.Value.string?).map fun context => part.set ({ · with context })
  | _ => some part

end Partial

mutual

def decode? : Json.Value → Option Rule
  | .object members => (decodeParts? {} members).bind Partial.finish
  | _ => none

def decodeParts? (part : Partial) : List (String × Json.Value) → Option Partial
  | [] => some part
  | (key, value) :: rest =>
      let taken :=
        match key, value with
        | "content", .null => some (part.set ({ · with content := none }))
        | "content", value =>
            (decode? value).map fun content => part.set ({ · with content := some content })
        | "members", .null => some (part.set ({ · with members := [] }))
        | "members", .array items =>
            (decodeList? [] items).map fun members => part.set ({ · with members })
        | "members", _ => none
        | key, value => part.take key value
      taken.bind fun part => decodeParts? part rest

/-- The rules of a list behind those already found, which come last first. -/
def decodeList? (found : List Rule) : List Json.Value → Option (List Rule)
  | [] => some found.reverse
  | item :: rest => (decode? item).bind fun rule => decodeList? (rule :: found) rest

end

end Rule

namespace Grammar

/-- A grammar whose two required members may not have come yet. -/
structure Partial where
  name : Option String := none
  rules : Option (NameMap Rule) := none
  rest : Grammar := { name := "" }

namespace Partial

def finish (part : Partial) : Option Grammar :=
  match part.name, part.rules with
  | some name, some rules => some { part.rest with name, rules }
  | _, _ => none

def set (part : Partial) (change : Grammar → Grammar) : Partial :=
  { part with rest := change part.rest }

def take (part : Partial) (key : String) (value : Value) : Option Partial :=
  let names := Value.list? Value.string?
  let rules := Value.list? Rule.decode?
  match key with
  | "$schema" => (value.part? Value.string?).map fun schema => part.set ({ · with schema })
  | "name" => value.string?.map fun name => { part with name := some name }
  | "inherits" => (value.part? Value.string?).map fun inherits => part.set ({ · with inherits })
  | "rules" => (value.map? Rule.decode?).map fun rules => { part with rules := some rules }
  | "extras" => (value.part? rules).map fun extras => part.set ({ · with extras })
  | "externals" => (value.part? rules).map fun externals => part.set ({ · with externals })
  | "inline" => (value.part? names).map fun inlined => part.set ({ · with inlined })
  | "precedences" =>
      (value.part? (Value.list? rules)).map fun precedences => part.set ({ · with precedences })
  | "conflicts" =>
      (value.part? (Value.list? names)).map fun conflicts => part.set ({ · with conflicts })
  | "reserved" => (value.part? (Value.map? rules)).map fun reserved => part.set ({ · with reserved })
  | "word" => (value.part? Value.string?).map fun word => part.set ({ · with word })
  | "supertypes" => (value.part? names).map fun supertypes => part.set ({ · with supertypes })
  | _ => some part

end Partial

def decode? : Value → Option Grammar
  | .object members =>
      (members.foldlM (fun (part : Partial) member => part.take member.1 member.2) ({} : Partial)).bind
        Partial.finish
  | _ => none

/-- What a value in a grammar's text is for. -/
inductive Place where
  | grammar
  | rule
  | kind
  | scalar
  | list (item : Place)
  | map (content : Place)

namespace Place

def ofGrammarKey? : String → Option Place
  | "$schema" | "name" | "inherits" | "word" => some scalar
  | "rules" => some (map rule)
  | "extras" | "externals" => some (list rule)
  | "inline" | "supertypes" => some (list scalar)
  | "precedences" => some (list (list rule))
  | "conflicts" => some (list (list scalar))
  | "reserved" => some (map (list rule))
  | _ => none

def ofRuleKey? : String → Option Place
  | "type" => some kind
  | "value" | "name" | "named" | "flags" | "context_name" => some scalar
  | "content" => some rule
  | "members" => some (list rule)
  | _ => none

/-- The members that are passed over are those that mean nothing. -/
def layout : Json.Layout Place where
  member?
    | grammar, key => ofGrammarKey? key
    | rule, key => ofRuleKey? key
    | kind, key => if (Rule.Kind.ofTag? key).isSome then some kind else none
    | map content, _ => some content
    | scalar, _ => some scalar
    | list _, _ => some scalar
  item
    | list item => item
    | _ => scalar

end Place

def read? (text : String) : Option Grammar :=
  (Place.layout.read? .grammar (Json.Scalar.tag text.toList)).bind decode?

end Grammar

end Treegram
