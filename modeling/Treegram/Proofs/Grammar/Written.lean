import Treegram.Grammar.Written
import Treegram.Proofs.Json.Decimal

/-!
Tags on written grammars. Taking the tags off a grammar's tagged text gives the reference
form, and putting them on again gives the tagged text back: both searches meet the values
of the rules and nothing else, however names and texts are spelled.
-/

namespace Treegram

open Json (Value EndsValue)
open Json.Scalar (Swap Becomes MemberBecomes)

namespace Json.Scalar

theorem quotedLength_quoted (content : String) (rest : List Char) :
    quotedLength? (Value.quoted content ++ rest) = some (Value.quoted content).length := by
  show closing? 1 (escape content.toList ++ ['"'] ++ rest) = _
  rw [List.append_assoc, List.singleton_append, closing_escape]
  simp [Value.quoted, Nat.add_comm]

theorem wrap_text (content : String) (rest : List Char) :
    wrap (Value.quoted content ++ rest) =
      some ((Value.quoted content).length, tagged textTag (Value.quoted content)) := by
  rw [wrap, quotedLength_quoted]
  simp

theorem wrap_level (number : Int) {rest : List Char} (ends : EndsValue rest) :
    wrap ((Decimal.ofInt number).chars ++ rest) =
      some ((Decimal.ofInt number).chars.length, tagged levelTag (Decimal.ofInt number).chars) := by
  rw [wrap, (start_ofInt number rest).1, integerLength_ofInt number ends]
  simp

theorem wrap_bracket {mark : Char} (bracket : mark = '[' ∨ mark = '\x7b') (text : List Char) :
    wrap (mark :: text) = none := by
  rcases bracket with rfl | rfl <;> simp [wrap, quotedLength?, integerLength?]

theorem blanks_zero {c : Char} (blank : isBlank c = false) (rest : List Char) :
    blanks (c :: rest) = 0 := by
  simp [blanks, blank]

theorem unwrap_tagged {word scalar : List Char} (known : word = textTag ∨ word = levelTag)
    (rest : List Char) (blank : blanks (scalar ++ '\x7d' :: rest) = 0)
    (length : scalarLength? (scalar ++ '\x7d' :: rest) = some scalar.length) :
    unwrap (tagged word scalar ++ rest) = some ((tagged word scalar).length, scalar) := by
  rcases known with rfl | rfl
  · simp [tagged, textTag, unwrap, blanks_zero, isBlank, quotedLength?, closing?, blank, length]
    omega
  · simp [tagged, levelTag, textTag, unwrap, blanks_zero, isBlank, quotedLength?, closing?, blank,
      length]
    omega

/-- A rule begins with its kind, which is no tag. -/
theorem unwrap_rule (text : List Char) :
    unwrap ('\x7b' :: (Value.quoted "type" ++ text)) = none := by
  have key : Value.quoted "type" = ['"', 't', 'y', 'p', 'e', '"'] := rfl
  simp [key, unwrap, blanks_zero, isBlank, quotedLength?, closing?, textTag, levelTag]

end Json.Scalar

namespace Rule

theorem bare_chars (value : Rule.Value) :
    value.bare.chars = match value with
      | .text content => Json.Value.quoted content
      | .level number => (Json.Decimal.ofInt number.toInt).chars := by
  cases value with
  | text content => exact Json.Value.chars_string content
  | level number => exact Json.Value.chars_integer number.toInt

theorem tagged_chars (value : Rule.Value) :
    value.tagged.chars = match value with
      | .text content => Json.Scalar.tagged Json.Scalar.textTag (Json.Value.quoted content)
      | .level number =>
          Json.Scalar.tagged Json.Scalar.levelTag (Json.Decimal.ofInt number.toInt).chars := by
  cases value with
  | text content =>
      rw [Value.tagged, Json.Value.chars_object, List.map_singleton, Json.Value.listed_cons,
        Json.Value.chars_string]
      simp [Json.Scalar.tagged, show Json.Value.quoted "String" = '"' :: (Json.Scalar.textTag ++ ['"']) from rfl]
  | level number =>
      rw [Value.tagged, Json.Value.chars_object, List.map_singleton, Json.Value.listed_cons,
        Json.Value.chars_integer]
      simp [Json.Scalar.tagged, show Json.Value.quoted "Integer" = '"' :: (Json.Scalar.levelTag ++ ['"']) from rfl]

/-- A search that turns one encoding of rule values into another and lets rules and lists be. -/
structure Exchanges (swap : Swap) (before after : Rule.Value → Json.Value) : Prop where
  scalar : ∀ value rest, EndsValue rest →
    Json.Scalar.blanks ((before value).chars ++ rest) = 0 ∧
      swap ((before value).chars ++ rest) = some ((before value).chars.length, (after value).chars)
  rule : ∀ text, swap ('\x7b' :: (Json.Value.quoted "type" ++ text)) = none
  list : ∀ text, swap ('[' :: text) = none

theorem wrap_exchanges : Exchanges Json.Scalar.wrap Rule.Value.bare Rule.Value.tagged where
  scalar value rest ends := by
    rw [bare_chars, tagged_chars]
    cases value with
    | text content => exact ⟨rfl, Json.Scalar.wrap_text content rest⟩
    | level number =>
        exact ⟨(Json.Scalar.start_ofInt number.toInt rest).2,
          Json.Scalar.wrap_level number.toInt ends⟩
  rule _ := Json.Scalar.wrap_bracket (Or.inr rfl) _
  list _ := Json.Scalar.wrap_bracket (Or.inl rfl) _

theorem unwrap_exchanges : Exchanges Json.Scalar.unwrap Rule.Value.tagged Rule.Value.bare where
  scalar value rest ends := by
    rw [bare_chars, tagged_chars]
    have brace : EndsValue ('\x7d' :: rest) := Json.ends_mark rest (Or.inr (Or.inr rfl))
    cases value with
    | text content =>
        refine ⟨rfl, Json.Scalar.unwrap_tagged (Or.inl rfl) rest rfl ?_⟩
        rw [Json.Scalar.scalarLength?, Json.Scalar.quotedLength_quoted, Option.some_or]
    | level number =>
        have start := Json.Scalar.start_ofInt number.toInt ('\x7d' :: rest)
        refine ⟨rfl, Json.Scalar.unwrap_tagged (Or.inr rfl) rest start.2 ?_⟩
        rw [Json.Scalar.scalarLength?, start.1, Option.none_or,
          Json.Scalar.integerLength_ofInt number.toInt brace]
  rule := Json.Scalar.unwrap_rule
  list _ := rfl

/-! ## Rules -/

/-- The members of a written rule behind its kind. -/
def writtenParts (scalar : Rule.Value → Json.Value) (rule : Rule) : List (String × Json.Value) :=
  writtenPart "value" scalar rule.value
    ++ writtenPart "name" .string rule.name
    ++ writtenPart "content" (encode scalar) rule.content
    ++ (if rule.members.isEmpty then []
        else [("members", .array (rule.members.map (encode scalar)))])
    ++ writtenPart "named" .bool rule.named
    ++ writtenPart "flags" .string rule.flags
    ++ writtenPart "context_name" .string rule.context

theorem encode_eq (scalar : Rule.Value → Json.Value) (rule : Rule) :
    rule.encode scalar = .object (("type", .string rule.kind.tag) :: rule.writtenParts scalar) := by
  rw [encode, fold_eq, writtenParts]
  cases rule.content <;> simp [writtenPart, encode]

end Rule

namespace Grammar

/-- The members of a written grammar, with rules that are listed in any order. -/
def listedMembers (scalar : Rule.Value → Value) (listed : List (String × Rule)) (grammar : Grammar) :
    List (String × Value) :=
  let rules (list : List Rule) : Value := .array (list.map (Rule.encode scalar))
  writtenPart "$schema" .string grammar.schema
    ++ [("name", .string grammar.name)]
    ++ writtenPart "inherits" .string grammar.inherits
    ++ [("rules", .object (listed.map fun entry => (entry.1, Rule.encode scalar entry.2)))]
    ++ writtenPart "extras" rules grammar.extras
    ++ writtenPart "externals" rules grammar.externals
    ++ writtenPart "inline" encodeNames grammar.inlined
    ++ writtenPart "precedences" (fun levels => .array (levels.map rules)) grammar.precedences
    ++ writtenPart "conflicts" (fun groups => .array (groups.map encodeNames)) grammar.conflicts
    ++ writtenPart "reserved" (encodeMap rules) grammar.reserved
    ++ writtenPart "word" .string grammar.word
    ++ writtenPart "supertypes" encodeNames grammar.supertypes

/-- The members of a written grammar, which lists its rules in name order. -/
def writtenMembers (scalar : Rule.Value → Value) (grammar : Grammar) : List (String × Value) :=
  grammar.listedMembers scalar grammar.rules.toList

theorem encode_eq (scalar : Rule.Value → Value) (grammar : Grammar) :
    grammar.encode scalar = .object (grammar.writtenMembers scalar) :=
  rfl

end Grammar

section Exchange
variable {swap : Swap} {before after : Rule.Value → Json.Value}

theorem becomes_string (content : String) :
    Becomes swap (Json.Value.string content).chars (Json.Value.string content).chars := by
  rw [Json.Value.chars_string]
  exact Json.Scalar.becomes_quoted content

theorem becomes_bool (value : Bool) :
    Becomes swap (Json.Value.bool value).chars (Json.Value.bool value).chars := by
  cases value <;> exact Json.Scalar.becomes_plain (by simp [Json.Value.chars, Json.Value.write])

/-- Behind any key but `value` a content need only be rewritten itself. -/
theorem member_other {key : String} (other : key ≠ "value") {old new : Json.Value}
    (content : Becomes swap old.chars new.chars) : MemberBecomes swap (key, old) (key, new) :=
  Json.Scalar.member_becomes (fun same => absurd same other) content

theorem part_becomes {α : Type} {key : String} {old new : α → Json.Value} {part : Option α}
    (content : ∀ held ∈ part, MemberBecomes swap (key, old held) (key, new held)) :
    List.Forall₂ (MemberBecomes swap) (writtenPart key old part) (writtenPart key new part) := by
  cases part with
  | none => exact .nil
  | some held => exact .cons (content held rfl) .nil

theorem list_becomes {α : Type} {old new : α → Json.Value} {items : List α}
    (each : ∀ item ∈ items, Becomes swap (old item).chars (new item).chars) :
    Becomes swap (Json.Value.array (items.map old)).chars
      (Json.Value.array (items.map new)).chars := by
  apply Json.Scalar.becomes_array
  rw [List.forall₂_map_left_iff, List.forall₂_map_right_iff, List.forall₂_same]
  exact each

namespace Rule

theorem leftAlone (exchanges : Exchanges swap before after) (rule : Rule) :
    Json.Scalar.LeftAlone swap (rule.encode before).chars := by
  intro rest
  rw [encode_eq, Json.Value.chars_object, List.map_cons, Json.Value.listed_cons]
  simp only [List.cons_append, List.append_assoc]
  exact ⟨exchanges.rule _, rfl⟩

theorem encode_becomes (exchanges : Exchanges swap before after) (rule : Rule) :
    Becomes swap (rule.encode before).chars (rule.encode after).chars := by
  induction rule using childInduction with
  | step rule ih =>
      have content : ∀ inner ∈ rule.content,
          Becomes swap (inner.encode before).chars (inner.encode after).chars :=
        fun inner held => ih inner (by simp [children, Option.mem_def.mp held])
      have members : Becomes swap (Json.Value.array (rule.members.map (encode before))).chars
          (Json.Value.array (rule.members.map (encode after))).chars :=
        list_becomes fun member held => ih member (by simp [children, held])
      rw [encode_eq, encode_eq]
      apply Json.Scalar.becomes_object
      -- Only the value is exchanged; the other parts change just where rules stand in them.
      refine .cons (member_other (by decide) (becomes_string _)) ?_
      refine List.rel_append (List.rel_append (List.rel_append (List.rel_append (List.rel_append
        (List.rel_append ?value ?name) ?content) ?members) ?named) ?flags) ?context
      case value =>
        exact part_becomes fun value _ => Json.Scalar.member_swapped (exchanges.scalar value)
      case content =>
        exact part_becomes fun inner held => member_other (by decide) (content inner held)
      case members =>
        split
        · exact .nil
        · exact .cons (member_other (by decide) members) .nil
      case named => exact part_becomes fun value _ => member_other (by decide) (becomes_bool value)
      all_goals exact part_becomes fun text _ => member_other (by decide) (becomes_string text)

end Rule

namespace Grammar

theorem rules_become (exchanges : Rule.Exchanges swap before after) (rules : List Rule) :
    Becomes swap (Json.Value.array (rules.map (Rule.encode before))).chars
      (Json.Value.array (rules.map (Rule.encode after))).chars :=
  list_becomes fun rule _ => Rule.encode_becomes exchanges rule

theorem names_become (names : List String) :
    Becomes swap (encodeNames names).chars (encodeNames names).chars :=
  list_becomes fun name _ => becomes_string name

-- An entry may be called `value`, so its content has to be left alone behind that key.
theorem entries_become {α : Type} {old new : α → Json.Value} (entries : List (String × α))
    (alone : ∀ content, Json.Scalar.LeftAlone swap (old content).chars)
    (each : ∀ content, Becomes swap (old content).chars (new content).chars) :
    Becomes swap (Json.Value.object (entries.map fun entry => (entry.1, old entry.2))).chars
      (Json.Value.object (entries.map fun entry => (entry.1, new entry.2))).chars := by
  apply Json.Scalar.becomes_object
  rw [List.forall₂_map_left_iff, List.forall₂_map_right_iff, List.forall₂_same]
  exact fun entry _ => Json.Scalar.member_becomes (fun _ => alone entry.2) (each entry.2)

theorem rules_alone (exchanges : Rule.Exchanges swap before after) (rules : List Rule) :
    Json.Scalar.LeftAlone swap (Json.Value.array (rules.map (Rule.encode before))).chars := by
  intro rest
  rw [Json.Value.chars_array]
  exact ⟨exchanges.list _, rfl⟩

theorem listed_become (exchanges : Rule.Exchanges swap before after) (listed : List (String × Rule))
    (grammar : Grammar) :
    Becomes swap (Json.Value.object (grammar.listedMembers before listed)).chars
      (Json.Value.object (grammar.listedMembers after listed)).chars := by
  have rules := rules_become exchanges
  have alone := rules_alone exchanges
  apply Json.Scalar.becomes_object
  refine List.rel_append (List.rel_append (List.rel_append (List.rel_append (List.rel_append
    (List.rel_append (List.rel_append (List.rel_append (List.rel_append (List.rel_append
    (List.rel_append ?schema ?name) ?inherits) ?rules) ?extras) ?externals) ?inlined)
    ?precedences) ?conflicts) ?reserved) ?word) ?supertypes
  case name => exact .cons (member_other (by decide) (becomes_string _)) .nil
  case rules =>
    exact .cons (member_other (by decide)
      (entries_become listed (Rule.leftAlone exchanges) (Rule.encode_becomes exchanges))) .nil
  case extras | externals =>
    exact part_becomes fun list _ => member_other (by decide) (rules list)
  case precedences =>
    exact part_becomes fun levels _ => member_other (by decide)
      (list_becomes fun level _ => rules level)
  case conflicts =>
    exact part_becomes fun groups _ => member_other (by decide)
      (list_becomes fun group _ => names_become group)
  case reserved =>
    exact part_becomes fun map _ => member_other (by decide) (entries_become map.toList alone rules)
  case inlined | supertypes =>
    exact part_becomes fun names _ => member_other (by decide) (names_become names)
  all_goals exact part_becomes fun text _ => member_other (by decide) (becomes_string text)

theorem substitute_whole {old new : List Char} (becomes : Becomes swap old new) :
    Json.Scalar.substitute swap old = new := by
  have whole := becomes [] (Or.inl rfl)
  rwa [List.append_nil, Json.Scalar.substitute_nil, List.append_nil] at whole

end Grammar

end Exchange

namespace Grammar

/-- What is written is the reference form. -/
theorem untag_taggedText (grammar : Grammar) :
    Json.Scalar.untag grammar.taggedText = grammar.plainText :=
  substitute_whole (listed_become Rule.unwrap_exchanges grammar.rules.toList grammar)

/-- What the reader works on is the tagged form, in whatever order the rules are listed. -/
theorem tag_listed (listed : List (String × Rule)) (grammar : Grammar) :
    Json.Scalar.tag (Json.Value.object (grammar.listedMembers Rule.Value.bare listed)).chars =
      (Json.Value.object (grammar.listedMembers Rule.Value.tagged listed)).chars :=
  substitute_whole (listed_become Rule.wrap_exchanges listed grammar)

end Grammar

end Treegram
