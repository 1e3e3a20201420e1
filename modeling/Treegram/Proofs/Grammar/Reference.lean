import Treegram.Proofs.Grammar.Written
import Treegram.Proofs.Json.Strict

/-!
The reference form of a grammar. It is described by itself, member by member: values of rules
are bare, and what is not set is not there. What is written of a grammar is a strict text of
its reference form, and differs from the tagged text in nothing but the tags.
-/

namespace Treegram

open Json (Value)

/-! ## Trees that describe grammars -/

namespace Rule

def referenceKeys : List String :=
  ["type", "value", "name", "content", "members", "named", "flags", "context_name"]

/-- Whether a part of the rule is set. -/
def sets (rule : Rule) : String → Bool
  | "type" => true
  | "value" => rule.value.isSome
  | "name" => rule.name.isSome
  | "content" => rule.content.isSome
  | "members" => !rule.members.isEmpty
  | "named" => rule.named.isSome
  | "flags" => rule.flags.isSome
  | "context_name" => rule.context.isSome
  | _ => false

/-- The members of the object for a rule are those of the parts that are set, in their order. -/
inductive Described : Rule → Json.Value → Prop where
  | object {rule : Rule} {members : List (String × Json.Value)} {inner : Option Json.Value}
      {trees : List Json.Value} (content : Option.Rel Described rule.content inner)
      (parts : List.Forall₂ Described rule.members trees)
      (keys : members.map (·.1) = referenceKeys.filter rule.sets)
      (type : ("type", .string rule.kind.tag) ∈ members)
      (text : ∀ text, rule.value = some (.text text) → ("value", .string text) ∈ members)
      (level : ∀ number, rule.value = some (.level number) →
        ("value", .integer number.toInt) ∈ members)
      (name : ∀ name, rule.name = some name → ("name", .string name) ∈ members)
      (contentMember : ∀ tree, inner = some tree → ("content", tree) ∈ members)
      (partsMember : trees ≠ [] → ("members", .array trees) ∈ members)
      (named : ∀ named, rule.named = some named → ("named", .bool named) ∈ members)
      (flags : ∀ flags, rule.flags = some flags → ("flags", .string flags) ∈ members)
      (context : ∀ context, rule.context = some context →
        ("context_name", .string context) ∈ members) :
      Described rule (.object members)

end Rule

namespace Grammar

def referenceKeys : List String :=
  ["$schema", "name", "inherits", "rules", "extras", "externals", "inline", "precedences",
    "conflicts", "reserved", "word", "supertypes"]

/-- Whether a part of the grammar is set. -/
def sets (grammar : Grammar) : String → Bool
  | "$schema" => grammar.schema.isSome
  | "name" | "rules" => true
  | "inherits" => grammar.inherits.isSome
  | "extras" => grammar.extras.isSome
  | "externals" => grammar.externals.isSome
  | "inline" => grammar.inlined.isSome
  | "precedences" => grammar.precedences.isSome
  | "conflicts" => grammar.conflicts.isSome
  | "reserved" => grammar.reserved.isSome
  | "word" => grammar.word.isSome
  | "supertypes" => grammar.supertypes.isSome
  | _ => false

/-- An array with an item for each element of a list. -/
def DescribedList {α : Type} (each : α → Value → Prop) (items : List α) (tree : Value) : Prop :=
  ∃ trees, tree = .array trees ∧ List.Forall₂ each items trees

/-- An object with a member for each pair of a map. -/
def DescribedMap {α : Type} (each : α → Value → Prop) (map : NameMap α) (tree : Value) : Prop :=
  ∃ members : List (String × Value), tree = .object members
    ∧ List.Forall₂ (fun entry member => member.1 = entry.1 ∧ each entry.2 member.2)
      map.toList members

def DescribedName (name : String) (tree : Value) : Prop := tree = .string name

/-- The member for a part that is set. -/
def DescribedPart {α : Type} (members : List (String × Value)) (key : String)
    (each : α → Value → Prop) (part : Option α) : Prop :=
  ∀ content, part = some content → ∃ tree, (key, tree) ∈ members ∧ each content tree

/-- The object for a grammar. -/
structure Described (grammar : Grammar) (members : List (String × Value)) : Prop where
  keys : members.map (·.1) = referenceKeys.filter grammar.sets
  schema : DescribedPart members "$schema" DescribedName grammar.schema
  name : ("name", .string grammar.name) ∈ members
  inherits : DescribedPart members "inherits" DescribedName grammar.inherits
  rules : DescribedPart members "rules" (DescribedMap Rule.Described) (some grammar.rules)
  extras : DescribedPart members "extras" (DescribedList Rule.Described) grammar.extras
  externals : DescribedPart members "externals" (DescribedList Rule.Described) grammar.externals
  inlined : DescribedPart members "inline" (DescribedList DescribedName) grammar.inlined
  precedences : DescribedPart members "precedences" (DescribedList (DescribedList Rule.Described))
    grammar.precedences
  conflicts : DescribedPart members "conflicts" (DescribedList (DescribedList DescribedName))
    grammar.conflicts
  reserved : DescribedPart members "reserved" (DescribedMap (DescribedList Rule.Described))
    grammar.reserved
  word : DescribedPart members "word" DescribedName grammar.word
  supertypes : DescribedPart members "supertypes" (DescribedList DescribedName) grammar.supertypes

end Grammar

/-! ## What is written is described -/

theorem mem_writtenPart {α : Type} (key : String) (encode : α → Value) {part : Option α}
    {content : α} (held : part = some content) :
    (key, encode content) ∈ writtenPart key encode part := by
  simp [writtenPart, held]

theorem writtenPart_keys {α : Type} (key : String) (encode : α → Value) (part : Option α) :
    (writtenPart key encode part).map (·.1) = if part.isSome then [key] else [] := by
  cases part <;> rfl

theorem filter_cons_eq {α : Type} (keep : α → Bool) (first : α) (rest : List α) :
    (first :: rest).filter keep = (if keep first then [first] else []) ++ rest.filter keep := by
  rw [List.filter_cons]
  split <;> rfl

theorem forall₂_encoded {α : Type} {each : α → Value → Prop} {encode : α → Value} {items : List α}
    (described : ∀ item ∈ items, each item (encode item)) :
    List.Forall₂ each items (items.map encode) := by
  rw [List.forall₂_map_right_iff, List.forall₂_same]
  exact described

namespace Rule

theorem writtenParts_keys (rule : Rule) (scalar : Rule.Value → Json.Value) :
    "type" :: (rule.writtenParts scalar).map (·.1) = referenceKeys.filter rule.sets := by
  have members : (if rule.members.isEmpty then []
      else [("members", Json.Value.array (rule.members.map (encode scalar)))]).map (·.1) =
      if !rule.members.isEmpty then ["members"] else [] := by
    cases rule.members <;> rfl
  simp only [writtenParts, List.map_append, writtenPart_keys, members, referenceKeys,
    filter_cons_eq, sets, List.filter_nil, List.append_nil, List.append_assoc, if_true,
    List.singleton_append]

theorem described_encode (rule : Rule) : rule.Described (rule.encode Rule.Value.bare) := by
  induction rule using childInduction with
  | step rule ih =>
      rw [encode_eq]
      have content : Option.Rel Described rule.content (rule.content.map (encode Value.bare)) := by
        cases held : rule.content with
        | none => exact .none
        | some inner => exact .some (ih inner (by simp [children, held]))
      have parts : List.Forall₂ Described rule.members (rule.members.map (encode Value.bare)) :=
        forall₂_encoded fun member held => ih member (by simp [children, held])
      refine .object content parts (rule.writtenParts_keys Value.bare) List.mem_cons_self
        ?text ?level ?name ?contentMember ?partsMember ?named ?flags ?context
      case contentMember =>
        intro tree held
        obtain ⟨inner, inside, rfl⟩ := Option.map_eq_some_iff.mp held
        have found := mem_writtenPart "content" (encode Value.bare) inside
        simp [writtenParts, found]
      case partsMember =>
        intro some
        have some : rule.members ≠ [] := by simpa using some
        simp [writtenParts, some]
      case text | level =>
        intro value held
        have found := mem_writtenPart "value" Value.bare held
        simp only [Value.bare] at found
        simp [writtenParts, found]
      case named =>
        intro named held
        have found := mem_writtenPart "named" Json.Value.bool held
        simp [writtenParts, found]
      case name | flags | context =>
        intro text held
        have found := fun key => mem_writtenPart key Json.Value.string held
        simp [writtenParts, found]

end Rule

namespace Grammar

theorem list_described {α : Type} {each : α → Value → Prop} {encode : α → Value}
    (described : ∀ item, each item (encode item)) (items : List α) :
    DescribedList each items (.array (items.map encode)) :=
  ⟨_, rfl, forall₂_encoded fun item _ => described item⟩

theorem map_described {α : Type} {each : α → Value → Prop} {encode : α → Value}
    (described : ∀ item, each item (encode item)) (map : NameMap α) :
    DescribedMap each map (encodeMap encode map) := by
  refine ⟨_, rfl, ?_⟩
  rw [List.forall₂_map_right_iff, List.forall₂_same]
  exact fun entry _ => ⟨rfl, described entry.2⟩

theorem writtenMembers_keys (grammar : Grammar) (scalar : Rule.Value → Value) :
    (grammar.writtenMembers scalar).map (·.1) = referenceKeys.filter grammar.sets := by
  simp only [writtenMembers, listedMembers, List.map_append, writtenPart_keys, referenceKeys,
    filter_cons_eq, sets, List.filter_nil, List.append_nil, List.append_assoc, if_true,
    List.map_cons, List.map_nil]

theorem part_described {α : Type} {members : List (String × Value)} {key : String}
    {each : α → Value → Prop} {encode : α → Value} {part : Option α}
    (inside : ∀ member ∈ writtenPart key encode part, member ∈ members)
    (described : ∀ content, each content (encode content)) :
    DescribedPart members key each part :=
  fun content held => ⟨encode content, inside _ (mem_writtenPart key encode held), described content⟩

theorem described_encode (grammar : Grammar) :
    grammar.Described (grammar.writtenMembers Rule.Value.bare) := by
  have rules := list_described Rule.described_encode
  have names : ∀ names : List String, DescribedList DescribedName names (encodeNames names) :=
    list_described fun _ => rfl
  constructor
  case keys => exact grammar.writtenMembers_keys Rule.Value.bare
  case name => simp [writtenMembers, listedMembers]
  case rules =>
    rintro map ⟨⟩
    exact ⟨encodeMap (Rule.encode Rule.Value.bare) grammar.rules,
      by simp [writtenMembers, listedMembers, encodeMap],
      map_described Rule.described_encode grammar.rules⟩
  case extras | externals =>
    exact part_described (fun _ found => by simp [writtenMembers, listedMembers, found]) rules
  case inlined | supertypes =>
    exact part_described (fun _ found => by simp [writtenMembers, listedMembers, found]) names
  case precedences =>
    exact part_described (fun _ found => by simp [writtenMembers, listedMembers, found])
      (list_described rules)
  case conflicts =>
    exact part_described (fun _ found => by simp [writtenMembers, listedMembers, found])
      (list_described names)
  case reserved =>
    exact part_described (fun _ found => by simp [writtenMembers, listedMembers, found])
      (map_described rules)
  all_goals
    exact part_described (fun _ found => by simp [writtenMembers, listedMembers, found])
      fun _ => rfl

end Grammar

/-! ## No tag is left -/

/-- An object that tells the type of the one scalar in it. -/
inductive IsTag : Value → Prop where
  | text (content : String) : IsTag (.object [("String", .string content)])
  | level (number : Json.Decimal) : IsTag (.object [("Integer", .number number)])

/-- Any other key makes an object no tag. -/
theorem not_isTag {members : List (String × Value)} (key : String)
    (found : key ∈ members.map (·.1)) (other : key ≠ "String" ∧ key ≠ "Integer") :
    ¬ IsTag (.object members) := by
  rintro (_ | _) <;> simp_all

/-- A tree with no tag anywhere in it, nothing missing, and numbers written strictly. -/
def Untagged (tree : Value) : Prop :=
  ∀ inner, tree.Holds inner → ¬ IsTag inner ∧ inner ≠ .null
    ∧ ∀ number, inner = .number number → number.IsStrict

theorem untagged_string (content : String) : Untagged (.string content) := by
  rintro inner ⟨⟩
  exact ⟨nofun, nofun, nofun⟩

theorem untagged_bool (value : Bool) : Untagged (.bool value) := by
  rintro inner ⟨⟩
  exact ⟨nofun, nofun, nofun⟩

theorem untagged_value (value : Rule.Value) : Untagged value.bare := by
  cases value with
  | text content => exact untagged_string content
  | level number =>
      rintro inner ⟨⟩
      refine ⟨nofun, nofun, ?_⟩
      rintro _ ⟨⟩
      exact Json.strict_ofInt number.toInt

theorem untagged_array {α : Type} {encode : α → Value} {items : List α}
    (each : ∀ item ∈ items, Untagged (encode item)) : Untagged (.array (items.map encode)) := by
  intro inner holds
  cases holds with
  | self => exact ⟨nofun, nofun, nofun⟩
  | item found inside =>
      obtain ⟨item, member, rfl⟩ := List.mem_map.mp found
      exact each item member inner inside

theorem untagged_object {members : List (String × Value)} (own : ¬ IsTag (.object members))
    (each : ∀ member ∈ members, Untagged member.2) : Untagged (.object members) := by
  intro inner holds
  cases holds with
  | self => exact ⟨own, nofun, nofun⟩
  | member found inside => exact each _ found inner inside

theorem untagged_part {α : Type} {key : String} {encode : α → Value} {part : Option α}
    (each : ∀ content, part = some content → Untagged (encode content)) :
    ∀ member ∈ writtenPart key encode part, Untagged member.2 := by
  intro member found
  obtain ⟨content, held, rfl⟩ : ∃ content, part = some content ∧ (key, encode content) = member := by
    simpa [writtenPart] using found
  exact each content held

theorem Rule.untagged_encode (rule : Rule) : Untagged (rule.encode Rule.Value.bare) := by
  induction rule using childInduction with
  | step rule ih =>
      rw [encode_eq]
      apply untagged_object (not_isTag "type" (by simp) (by decide))
      have content : ∀ inner, rule.content = some inner → Untagged (inner.encode Value.bare) :=
        fun inner held => ih inner (by simp [children, held])
      have members : Untagged (.array (rule.members.map (encode Value.bare))) :=
        untagged_array fun member held => ih member (by simp [children, held])
      simp only [writtenParts, List.forall_mem_cons, List.forall_mem_append]
      refine ⟨untagged_string _, ⟨⟨⟨⟨⟨?value, ?name⟩, ?content⟩, ?members⟩, ?named⟩, ?flags⟩, ?context⟩
      case value => exact untagged_part fun value _ => untagged_value value
      case content => exact untagged_part content
      case members => split <;> simp [members]
      case named => exact untagged_part fun value _ => untagged_bool value
      all_goals exact untagged_part fun text _ => untagged_string text

namespace Grammar

/-- An entry of a map may be called as a tag is, but what is in it is no scalar. -/
theorem untagged_map {α : Type} {encode : α → Value} {map : NameMap α}
    (compound : ∀ content, (∃ items, encode content = .array items)
      ∨ ∃ members, encode content = .object members)
    (each : ∀ content, Untagged (encode content)) : Untagged (encodeMap encode map) := by
  apply untagged_object
  · intro tag
    generalize shown : map.toList.map (fun entry => (entry.1, encode entry.2)) = members at tag
    cases tag with
    | text content | level number =>
        obtain ⟨entry, -, same⟩ := List.mem_map.mp (shown ▸ List.mem_cons_self)
        rcases compound entry.2 with ⟨_, inside⟩ | ⟨_, inside⟩ <;> simp [inside] at same
  · intro member found
    obtain ⟨entry, -, rfl⟩ := List.mem_map.mp found
    exact each entry.2

theorem untagged_encode (grammar : Grammar) : Untagged (grammar.encode Rule.Value.bare) := by
  have rules : ∀ rules : List Rule, Untagged (.array (rules.map (Rule.encode Rule.Value.bare))) :=
    fun _ => untagged_array fun rule _ => rule.untagged_encode
  have names : ∀ names, Untagged (encodeNames names) :=
    fun _ => untagged_array fun name _ => untagged_string name
  rw [encode_eq]
  apply untagged_object (not_isTag "name" (by simp [writtenMembers, listedMembers]) (by decide))
  simp only [writtenMembers, listedMembers, List.forall_mem_append, List.forall_mem_singleton]
  refine ⟨⟨⟨⟨⟨⟨⟨⟨⟨⟨⟨?schema, ?name⟩, ?inherits⟩, ?rules⟩, ?extras⟩, ?externals⟩, ?inlined⟩,
    ?precedences⟩, ?conflicts⟩, ?reserved⟩, ?word⟩, ?supertypes⟩
  case name => exact untagged_string _
  case rules =>
    exact untagged_map (fun rule => Or.inr ⟨_, Rule.encode_eq _ rule⟩) Rule.untagged_encode
  case extras | externals => exact untagged_part fun list _ => rules list
  case precedences =>
    exact untagged_part fun levels _ => untagged_array fun level _ => rules level
  case conflicts => exact untagged_part fun groups _ => untagged_array fun group _ => names group
  case reserved => exact untagged_part fun map _ => untagged_map (fun _ => Or.inl ⟨_, rfl⟩) rules
  case inlined | supertypes => exact untagged_part fun list _ => names list
  all_goals exact untagged_part fun text _ => untagged_string text

end Grammar

/-! ## Nothing else is changed -/

/-- Of a written text, what does not depend on how values are written, and a value. -/
inductive Piece where
  | kept (text : List Char)
  | scalar (value : Rule.Value)

namespace Piece

def chars (scalar : Rule.Value → Value) : Piece → List Char
  | .kept text => text
  | .scalar value => (scalar value).chars

def value? : Piece → Option Rule.Value
  | .kept _ => none
  | .scalar value => some value

/-- Pieces of several texts with commas between them. -/
def listed : List (List Piece) → List Piece
  | [] => []
  | first :: rest => first ++ rest.flatMap (.kept [','] :: ·)

theorem listed_values (groups : List (List Piece)) :
    (listed groups).filterMap value? = groups.flatten.filterMap value? := by
  cases groups with
  | nil => rfl
  | cons first rest =>
      rw [listed, List.flatten_cons, List.filterMap_append, List.filterMap_append]
      congr 1
      induction rest with
      | nil => rfl
      | cons group rest ih =>
          rw [List.flatMap_cons, List.flatten_cons, List.filterMap_append, List.filterMap_append, ih,
            List.filterMap_cons_none rfl]

theorem listed_chars (scalar : Rule.Value → Value) (groups : List (List Piece)) :
    (listed groups).flatMap (chars scalar) = Value.listed (groups.map (·.flatMap (chars scalar))) := by
  cases groups with
  | nil => rfl
  | cons first rest =>
      rw [listed, List.map_cons, Value.listed_cons, List.flatMap_append, List.flatMap_map,
        List.flatMap_assoc]
      simp [chars]

end Piece

/-- How texts that depend on how values are written are put together from pieces, with these
values in them. The texts stand apart. -/
def Cut (values : List Rule.Value) (texts : (Rule.Value → Value) → List (List Char)) : Prop :=
  ∃ groups : List (List Piece), groups.flatten.filterMap Piece.value? = values
    ∧ ∀ scalar, texts scalar = groups.map (·.flatMap (Piece.chars scalar))

namespace Cut
variable {values others : List Rule.Value} {texts more : (Rule.Value → Value) → List (List Char)}

theorem nil : Cut [] fun _ => [] := ⟨[], rfl, fun _ => rfl⟩

theorem append (first : Cut values texts) (second : Cut others more) :
    Cut (values ++ others) fun scalar => texts scalar ++ more scalar := by
  obtain ⟨groups, rfl, whole⟩ := first
  obtain ⟨rest, rfl, behind⟩ := second
  exact ⟨groups ++ rest, by simp, fun scalar => by simp [whole, behind]⟩

theorem kept (text : List Char) : Cut [] fun _ => [text] :=
  ⟨[[.kept text]], rfl, fun _ => by simp [Piece.chars]⟩

theorem scalar (value : Rule.Value) : Cut [value] fun scalar => [(scalar value).chars] :=
  ⟨[[.scalar value]], rfl, fun _ => by simp [Piece.chars]⟩

theorem map {α : Type} {values : α → List Rule.Value} {text : (Rule.Value → Value) → α → List Char}
    {items : List α} (each : ∀ item ∈ items, Cut (values item) fun scalar => [text scalar item]) :
    Cut (items.flatMap values) fun scalar => items.map (text scalar) := by
  induction items with
  | nil => exact nil
  | cons item rest ih =>
      have first := each item List.mem_cons_self
      exact first.append (ih fun other held => each other (List.mem_cons_of_mem item held))

/-- Texts that stand apart are brought together with commas and put between other texts. -/
theorem enclosed (front back : List Char) (cut : Cut values texts) :
    Cut values fun scalar => [front ++ (Value.listed (texts scalar) ++ back)] := by
  obtain ⟨groups, rfl, whole⟩ := cut
  refine ⟨[.kept front :: (Piece.listed groups ++ [.kept back])], ?_, fun scalar => ?_⟩
  · simp [List.filterMap_cons, Piece.value?, Piece.listed_values]
  · simp [Piece.chars, Piece.listed_chars, whole]

/-- The pieces of a single text. -/
theorem pieces {text : (Rule.Value → Value) → List Char} (cut : Cut values fun scalar => [text scalar]) :
    ∃ pieces : List Piece, pieces.filterMap Piece.value? = values
      ∧ ∀ scalar, text scalar = pieces.flatMap (Piece.chars scalar) := by
  obtain ⟨groups, rfl, whole⟩ := cut
  refine ⟨groups.flatten, rfl, fun scalar => ?_⟩
  have joined := congrArg List.flatten (whole scalar)
  simpa [List.flatMap_def, List.flatten_flatten, Function.comp_def] using joined

/-- A single text between others. -/
theorem between {text : (Rule.Value → Value) → List Char} (front back : List Char)
    (cut : Cut values fun scalar => [text scalar]) :
    Cut values fun scalar => [front ++ (text scalar ++ back)] := by
  simpa [Value.listed] using cut.enclosed front back

theorem member {tree : (Rule.Value → Value) → Value} (key : String)
    (cut : Cut values fun scalar => [(tree scalar).chars]) :
    Cut values fun scalar => [Json.Scalar.memberChars (key, tree scalar)] := by
  simpa [Json.Scalar.memberChars] using cut.between (Value.quoted key ++ [':']) []

theorem array {α : Type} {values : α → List Rule.Value} {encode : (Rule.Value → Value) → α → Value}
    {items : List α} (each : ∀ item ∈ items, Cut (values item) fun scalar => [(encode scalar item).chars]) :
    Cut (items.flatMap values) fun scalar => [(Value.array (items.map (encode scalar))).chars] := by
  simpa [Value.chars_array, Function.comp_def] using (map each).enclosed ['['] [']']

theorem object {members : (Rule.Value → Value) → List (String × Value)}
    (cut : Cut values fun scalar => (members scalar).map Json.Scalar.memberChars) :
    Cut values fun scalar => [(Value.object (members scalar)).chars] := by
  simp only [Value.chars_object]
  exact cut.enclosed ['\x7b'] ['\x7d']

/-- The text of a part that does not depend on how values are written. -/
theorem fixed {α : Type} (key : String) (encode : α → Value) (part : Option α) :
    Cut [] fun _ => (writtenPart key encode part).map Json.Scalar.memberChars := by
  cases part with
  | none => exact nil
  | some content => exact kept _

theorem part {α : Type} {key : String} {encode : (Rule.Value → Value) → α → Value} {part : Option α}
    {values : α → List Rule.Value}
    (each : ∀ content, part = some content →
      Cut (values content) fun scalar => [(encode scalar content).chars]) :
    Cut (part.toList.flatMap values) fun scalar =>
      (writtenPart key (encode scalar) part).map Json.Scalar.memberChars := by
  cases part with
  | none => exact nil
  | some content => simpa [writtenPart] using (each content rfl).member key

end Cut

namespace Rule

/-- The values in the rule, a node before its children. -/
def values (rule : Rule) : List Rule.Value := rule.walk.filterMap (·.value)

theorem values_eq (rule : Rule) :
    rule.values = rule.value.toList ++ rule.content.toList.flatMap values
      ++ rule.members.flatMap values := by
  rw [values, walk_eq, List.filterMap_cons, List.filterMap_flatMap, children, List.flatMap_append]
  cases rule.value <;> simp <;> rfl

theorem cut_encode (rule : Rule) : Cut rule.values fun scalar => [(rule.encode scalar).chars] := by
  induction rule using childInduction with
  | step rule ih =>
      have content : ∀ inner, rule.content = some inner →
          Cut inner.values fun scalar => [(inner.encode scalar).chars] :=
        fun inner held => ih inner (by simp [children, held])
      have members : Cut (rule.members.flatMap values) fun scalar =>
          [(Json.Value.array (rule.members.map (encode scalar))).chars] :=
        Cut.array fun member held => ih member (by simp [children, held])
      have values : rule.values = [] ++ (rule.value.toList.flatMap ([·]) ++ []
          ++ rule.content.toList.flatMap values ++ rule.members.flatMap values ++ [] ++ [] ++ []) := by
        cases held : rule.value <;> simp [values_eq, held]
      rw [values]
      simp only [encode_eq]
      apply Cut.object
      simp only [List.map_cons, writtenParts, List.map_append]
      refine (Cut.kept _).append ((((((Cut.append ?value (Cut.fixed _ _ _)).append ?content).append
        ?parts).append (Cut.fixed _ _ _)).append (Cut.fixed _ _ _)).append (Cut.fixed _ _ _))
      case value => exact Cut.part fun value _ => Cut.scalar value
      case content => exact Cut.part content
      case parts =>
        by_cases none : rule.members = []
        · simpa [none] using Cut.nil
        · simpa [none] using members.member "members"

end Rule

namespace Grammar

/-- The rules of a grammar in the order they are written in. -/
def writtenRules (grammar : Grammar) : List Rule :=
  grammar.rules.toList.map (·.2) ++ grammar.extraRules ++ grammar.externalRules
    ++ (grammar.precedences.getD []).flatten
    ++ ((grammar.reserved.map Std.ExtTreeMap.toList).getD []).flatMap (·.2)

/-- The values of all rules in the order they are written in. -/
def values (grammar : Grammar) : List Rule.Value := grammar.writtenRules.flatMap Rule.values

theorem cut_map {α : Type} {values : α → List Rule.Value}
    {encode : (Rule.Value → Value) → α → Value} (map : NameMap α)
    (each : ∀ content, Cut (values content) fun scalar => [(encode scalar content).chars]) :
    Cut (map.toList.flatMap fun entry => values entry.2) fun scalar =>
      [(encodeMap (encode scalar) map).chars] := by
  apply Cut.object
  simp only [List.map_map]
  exact Cut.map fun entry _ => (each entry.2).member entry.1

theorem cut_encode (grammar : Grammar) :
    Cut grammar.values fun scalar => [(grammar.encode scalar).chars] := by
  have rules : ∀ rules : List Rule, Cut (rules.flatMap Rule.values) fun scalar =>
      [(Value.array (rules.map (Rule.encode scalar))).chars] :=
    fun _ => Cut.array fun rule _ => rule.cut_encode
  -- The values in the order of the members, with nothing for those that hold no rules.
  have values : grammar.values = [] ++ [] ++ []
      ++ grammar.rules.toList.flatMap (fun entry => entry.2.values)
      ++ grammar.extras.toList.flatMap (·.flatMap Rule.values)
      ++ grammar.externals.toList.flatMap (·.flatMap Rule.values) ++ []
      ++ grammar.precedences.toList.flatMap (·.flatMap (·.flatMap Rule.values)) ++ []
      ++ grammar.reserved.toList.flatMap (fun map => map.toList.flatMap (·.2.flatMap Rule.values))
      ++ [] ++ [] := by
    simp only [values, writtenRules, extraRules, externalRules, List.flatMap_append,
      List.flatMap_map, List.append_nil, List.nil_append]
    cases grammar.extras <;> cases grammar.externals <;> cases grammar.precedences <;>
      cases grammar.reserved <;>
      simp [List.flatMap_def, List.flatten_flatten, Function.comp_def]
  rw [values]
  simp only [encode_eq]
  apply Cut.object
  simp only [writtenMembers, listedMembers, List.map_append, List.map_cons, List.map_nil]
  refine .append (.append (.append (.append (.append (.append (.append (.append (.append
    (.append (.append (Cut.fixed _ _ _) (Cut.kept _)) (Cut.fixed _ _ _)) ?rules) ?extras)
    ?externals) (Cut.fixed _ _ _)) ?precedences) (Cut.fixed _ _ _)) ?reserved)
    (Cut.fixed _ _ _)) (Cut.fixed _ _ _)
  case rules => exact (cut_map grammar.rules Rule.cut_encode).member "rules"
  case extras | externals => exact Cut.part fun list _ => rules list
  case precedences => exact Cut.part fun levels _ => Cut.array fun level _ => rules level
  case reserved => exact Cut.part fun map _ => cut_map map rules

/-- What is written of a grammar is a strict text of its reference form: all that is set is in it
and nothing else, and no value of a rule has a tag. It is cut into pieces that can be found again
in the tagged text, between the values of the rules, which are all that is written otherwise. -/
theorem text_reference (grammar : Grammar) :
    ∃ members, grammar.Described members
      ∧ Json.IsTextOf (.object members) grammar.text.toList
      ∧ grammar.text.toList = (Value.object members).chars
      ∧ Untagged (.object members)
      ∧ ∃ pieces : List Piece, pieces.filterMap Piece.value? = grammar.values
          ∧ grammar.taggedText = pieces.flatMap (Piece.chars Rule.Value.tagged)
          ∧ grammar.text.toList = pieces.flatMap (Piece.chars Rule.Value.bare) := by
  have plain : grammar.text.toList = (grammar.encode Rule.Value.bare).chars := by
    rw [text, String.toList_ofList, untag_taggedText, plainText]
  have untagged := grammar.untagged_encode
  have strict : (grammar.encode Rule.Value.bare).NumbersStrict := fun number holds =>
    (untagged _ holds).2.2 number rfl
  obtain ⟨pieces, values, whole⟩ := grammar.cut_encode.pieces
  refine ⟨_, grammar.described_encode, ?_, plain, untagged, pieces, values, whole _, ?_⟩
  · rw [plain]
    exact Json.isTextOf_chars strict
  · rw [plain]
    exact whole _

end Grammar

end Treegram
