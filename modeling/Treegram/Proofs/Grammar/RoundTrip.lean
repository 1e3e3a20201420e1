import Treegram.Grammar.Reader
import Treegram.Proofs.Grammar.Written
import Treegram.Proofs.Json.Reading

/-!
Grammars that are written and read again. The tagged text of a grammar is legible as a whole
and its tree is decoded part by part, so reading what was written gives the same grammar.
-/

namespace Treegram

open Json (Value Legible)

/-! ## Legible trees -/

/-- A member that is wanted at a place, with a value that can be read there. -/
def LegibleMember {Place : Type} (layout : Json.Layout Place) (place : Place)
    (member : String × Value) : Prop :=
  ∃ inner, layout.member? place member.1 = some inner ∧ Legible layout inner member.2

theorem legible_part {Place α : Type} {layout : Json.Layout Place} {place inner : Place}
    {key : String} {encode : α → Value} {part : Option α}
    (wanted : layout.member? place key = some inner)
    (each : ∀ held ∈ part, Legible layout inner (encode held)) :
    ∀ member ∈ writtenPart key encode part, LegibleMember layout place member := by
  cases part with
  | none => exact List.forall_mem_nil _
  | some held => exact List.forall_mem_singleton.mpr ⟨inner, wanted, each held rfl⟩

theorem legible_object {Place : Type} {layout : Json.Layout Place} {place : Place}
    {members : List (String × Value)}
    (inside : ∀ member ∈ members, LegibleMember layout place member) :
    Legible layout place (.object members) := by
  refine .object (fun key => (layout.member? place key).getD place) ?_ ?_
  · intro member held
    obtain ⟨inner, wanted, _⟩ := inside member held
    rw [wanted, Option.getD_some]
  · intro member held
    obtain ⟨inner, wanted, legible⟩ := inside member held
    rwa [wanted, Option.getD_some]

namespace Grammar.Place

theorem legible_list {item : Place} {α : Type} {encode : α → Value} {items : List α}
    (each : ∀ held ∈ items, Legible layout item (encode held)) :
    Legible layout (.list item) (.array (items.map encode)) := by
  refine .array fun value held => ?_
  obtain ⟨one, among, rfl⟩ := List.mem_map.mp held
  exact each one among

theorem legible_entries {content : Place} {α : Type} {encode : α → Value}
    (entries : List (String × α)) (each : ∀ held, Legible layout content (encode held)) :
    Legible layout (.map content)
      (.object (entries.map fun entry => (entry.1, encode entry.2))) := by
  refine legible_object fun member held => ?_
  obtain ⟨entry, _, rfl⟩ := List.mem_map.mp held
  exact ⟨content, rfl, each entry.2⟩

theorem legible_value (value : Rule.Value) : Legible layout .scalar value.tagged := by
  cases value with
  | text content =>
      exact legible_object (List.forall_mem_singleton.mpr ⟨.scalar, rfl, .string _ _⟩)
  | level number =>
      exact legible_object (List.forall_mem_singleton.mpr
        ⟨.scalar, rfl, .integer _ (Int32.le_toInt number) (Int32.toInt_lt number)⟩)

theorem legible_names (names : List String) : Legible layout (.list .scalar) (encodeNames names) :=
  legible_list fun name _ => Legible.string Place.scalar name

theorem legible_rule (rule : Rule) : Legible layout .rule (rule.encode Rule.Value.tagged) := by
  induction rule using Rule.childInduction with
  | step rule ih =>
      have content : ∀ inner ∈ rule.content, Legible layout .rule (inner.encode Rule.Value.tagged) :=
        fun inner held => ih inner (by simp [Rule.children, Option.mem_def.mp held])
      have members : Legible layout (.list .rule)
          (.array (rule.members.map (Rule.encode Rule.Value.tagged))) :=
        legible_list fun member held => ih member (by simp [Rule.children, held])
      rw [Rule.encode_eq]
      refine legible_object ?_
      simp only [Rule.writtenParts, List.forall_mem_cons, List.forall_mem_append]
      refine ⟨⟨.kind, rfl, .string _ _⟩, ⟨⟨⟨⟨⟨?value, ?name⟩, ?content⟩, ?members⟩, ?named⟩, ?flags⟩,
        ?context⟩
      case value => exact legible_part rfl fun value _ => legible_value value
      case content => exact legible_part rfl content
      case members =>
        split
        · exact List.forall_mem_nil _
        · exact List.forall_mem_singleton.mpr ⟨.list .rule, rfl, members⟩
      case named => exact legible_part rfl fun value _ => .bool Place.scalar value
      all_goals exact legible_part rfl fun text _ => .string Place.scalar text

theorem legible_rules (rules : List Rule) :
    Legible layout (.list .rule) (.array (rules.map (Rule.encode Rule.Value.tagged))) :=
  legible_list fun rule _ => legible_rule rule

theorem legible_listed (listed : List (String × Rule)) (grammar : Grammar) :
    Legible layout .grammar (.object (grammar.listedMembers Rule.Value.tagged listed)) := by
  refine legible_object ?_
  simp only [listedMembers, List.forall_mem_append, List.forall_mem_singleton]
  refine ⟨⟨⟨⟨⟨⟨⟨⟨⟨⟨⟨?schema, ?name⟩, ?inherits⟩, ?rules⟩, ?extras⟩, ?externals⟩, ?inlined⟩,
    ?precedences⟩, ?conflicts⟩, ?reserved⟩, ?word⟩, ?supertypes⟩
  case name => exact ⟨.scalar, rfl, .string _ _⟩
  case rules => exact ⟨.map .rule, rfl, legible_entries listed legible_rule⟩
  case extras | externals => exact legible_part rfl fun rules _ => legible_rules rules
  case precedences =>
    exact legible_part rfl fun levels _ => legible_list fun level _ => legible_rules level
  case conflicts =>
    exact legible_part rfl fun groups _ => legible_list fun group _ => legible_names group
  case reserved => exact legible_part rfl fun map _ => legible_entries map.toList legible_rules
  case inlined | supertypes => exact legible_part rfl fun names _ => legible_names names
  all_goals exact legible_part rfl fun text _ => .string Place.scalar text

end Grammar.Place

/-! ## Decoded trees -/

namespace Rule

theorem decode_value (value : Rule.Value) : decodeValue? value.tagged = some value := by
  cases value with
  | text content => rfl
  | level number =>
      have low := Int32.le_toInt number
      have high := Int32.toInt_lt number
      have range : Json.Value.inLevelRange? number.toInt = some number := by
        rw [Json.Value.inLevelRange?, if_pos ⟨low, high⟩, Int32.ofInt_toInt]
      have read : Json.Value.level? (Json.Value.integer number.toInt) = some number := by
        rw [Json.Value.integer, Json.Value.level?, Json.Decimal.integer_ofInt]
        exact range
      show (Json.Value.level? (Json.Value.integer number.toInt)).map Rule.Value.level = _
      rw [read, Option.map_some]

/-- What comes of a member does not depend on what stands behind it. -/
theorem decodeParts_cons (part : Partial) (member : String × Json.Value)
    (rest : List (String × Json.Value)) :
    decodeParts? part (member :: rest) =
      (decodeParts? part [member]).bind fun part => decodeParts? part rest := by
  obtain ⟨key, value⟩ := member
  rw [decodeParts?.eq_def part [(key, value)], decodeParts?.eq_def part ((key, value) :: rest)]
  dsimp only
  rw [Option.bind_assoc]
  exact congrArg _ (funext fun part => by rw [decodeParts?, Option.bind_some])

theorem decodeParts_append (part : Partial) (front back : List (String × Json.Value)) :
    decodeParts? part (front ++ back) =
      (decodeParts? part front).bind fun part => decodeParts? part back := by
  induction front generalizing part with
  | nil => rfl
  | cons member front ih =>
      rw [List.cons_append, decodeParts_cons part member front, decodeParts_cons, Option.bind_assoc]
      exact congrArg _ (funext fun part => ih part)

theorem decodeList_eq (found : List Rule) (items : List Rule) (encode : Rule → Json.Value)
    (each : ∀ item ∈ items, decode? (encode item) = some item) :
    decodeList? found (items.map encode) = some (found.reverse ++ items) := by
  induction items generalizing found with
  | nil => simp [decodeList?]
  | cons item items ih =>
      rw [List.map_cons, decodeList?, each item List.mem_cons_self, Option.bind_some,
        ih (item :: found) fun other held => each other (List.mem_cons_of_mem item held)]
      simp

theorem decodeParts_take {part : Partial} {key : String} {value : Json.Value}
    (content : key ≠ "content") (members : key ≠ "members") :
    decodeParts? part [(key, value)] = part.take key value := by
  rw [decodeParts?.eq_def]
  dsimp only
  split
  case h_1 | h_2 => exact absurd rfl content
  case h_3 | h_4 | h_5 => exact absurd rfl members
  case h_6 =>
    cases part.take key value with
    | none => rfl
    | some taken => rw [Option.bind_some, decodeParts?]

theorem decode_content {part : Partial} {inner : Rule}
    (read : decode? (inner.encode Value.tagged) = some inner) :
    decodeParts? part [("content", inner.encode Value.tagged)] =
      some (part.set ({ · with content := some inner })) := by
  rw [encode_eq] at read ⊢
  simp [decodeParts?, read]

theorem decode_members {part : Partial} {items : List Json.Value} {members : List Rule}
    (read : decodeList? [] items = some members) :
    decodeParts? part [("members", .array items)] = some (part.set ({ · with members })) := by
  simp [decodeParts?, read]

/-- A part that is left out keeps its default; `next` says what comes of a part that is there. -/
theorem decode_part {α : Type} (next : Option α → Partial) (held : Option α) {key : String}
    {encode : α → Json.Value}
    (read : ∀ content ∈ held,
      decodeParts? (next none) [(key, encode content)] = some (next (some content))) :
    decodeParts? (next none) (writtenPart key encode held) = some (next held) := by
  cases held with
  | none => rfl
  | some content => exact read content rfl

theorem decode_scalar {α : Type} (next : Option α → Partial) (held : Option α) {key : String}
    {encode : α → Json.Value} (content : key ≠ "content") (members : key ≠ "members")
    (taken : ∀ content, (next none).take key (encode content) = some (next (some content))) :
    decodeParts? (next none) (writtenPart key encode held) = some (next held) :=
  decode_part next held fun one _ => (decodeParts_take content members).trans (taken one)

theorem part_value (value : Rule.Value) :
    value.tagged.part? decodeValue? = some (some value) := by
  have read := congrArg (Option.map some) (decode_value value)
  cases value <;> exact read

theorem decode_encode (rule : Rule) : decode? (rule.encode Value.tagged) = some rule := by
  induction rule using childInduction with
  | step rule ih =>
      -- The rules inside are read back by the induction; the parts of this one are taken in turn.
      have inside : ∀ inner ∈ rule.content, decode? (inner.encode Value.tagged) = some inner :=
        fun inner held => ih inner (by simp [children, Option.mem_def.mp held])
      have list := decodeList_eq [] rule.members (encode Value.tagged)
        fun member held => ih member (by simp [children, held])
      obtain ⟨kind, value, name, content, members, named, flags, context⟩ := rule
      dsimp only at inside list
      have type : decodeParts? {} [("type", .string kind.tag)] =
          some ⟨some kind, { kind := .blank }⟩ := by
        rw [decodeParts_take (by decide) (by decide)]
        show (Kind.ofTag? kind.tag).map _ = _
        rw [Kind.ofTag?_tag]
        rfl
      have membersRead :
          decodeParts? ⟨some kind, { kind := .blank, value, name, content }⟩
            (if members.isEmpty then []
              else [("members", .array (members.map (encode Value.tagged)))]) =
          some ⟨some kind, { kind := .blank, value, name, content, members }⟩ := by
        cases members with
        | nil => rfl
        | cons => exact decode_members list
      -- The parts fill in from the left; each one is still at its default when its turn comes.
      rw [encode_eq, decode?, decodeParts_cons, type, Option.bind_some, writtenParts]
      simp only [decodeParts_append]
      rw [decode_scalar (fun value => ⟨some kind, { kind := .blank, value }⟩) value (by decide)
          (by decide) fun one => by rw [Partial.take, part_value]; rfl,
        Option.bind_some,
        decode_scalar (fun name => ⟨some kind, { kind := .blank, value, name }⟩) name (by decide)
          (by decide) fun one => rfl,
        Option.bind_some,
        decode_part (fun content => ⟨some kind, { kind := .blank, value, name, content }⟩) content
          fun inner held => decode_content (inside inner held),
        Option.bind_some, membersRead, Option.bind_some,
        decode_scalar (fun named =>
          ⟨some kind, { kind := .blank, value, name, content, members, named }⟩) named (by decide)
          (by decide) fun one => rfl,
        Option.bind_some,
        decode_scalar (fun flags =>
          ⟨some kind, { kind := .blank, value, name, content, members, named, flags }⟩) flags
          (by decide) (by decide) fun one => rfl,
        Option.bind_some,
        decode_scalar (fun context =>
          ⟨some kind, { kind := .blank, value, name, content, members, named, flags, context }⟩)
          context (by decide) (by decide) fun one => rfl,
        Option.bind_some]
      rfl

end Rule

namespace Grammar

theorem mapM_read {α β : Type} {encode : α → β} {decode : β → Option α} {items : List α}
    (each : ∀ item ∈ items, decode (encode item) = some item) :
    (items.map encode).mapM decode = some items := by
  induction items with
  | nil => rfl
  | cons item items ih =>
      rw [List.map_cons, List.mapM_cons, each item List.mem_cons_self,
        ih fun other held => each other (List.mem_cons_of_mem item held)]
      rfl

theorem list_read {α : Type} {encode : α → Value} {decode : Value → Option α}
    (each : ∀ item, decode (encode item) = some item) (items : List α) :
    Value.list? decode (.array (items.map encode)) = some items :=
  mapM_read fun item _ => each item

theorem ofList_toList {α : Type} (map : NameMap α) : Std.ExtTreeMap.ofList map.toList = map := by
  apply Std.ExtTreeMap.ext_getElem?
  intro key
  cases found : map[key]? with
  | some content =>
      have held := Std.ExtTreeMap.mem_toList_iff_getElem?_eq_some.mpr found
      exact Std.ExtTreeMap.getElem?_ofList_of_mem Std.ReflCmp.compare_self
        Std.ExtTreeMap.distinct_keys_toList held
  | none =>
      apply Std.ExtTreeMap.getElem?_ofList_of_contains_eq_false
      rw [Std.ExtTreeMap.map_fst_toList_eq_keys, Std.ExtTreeMap.contains_keys,
        Std.ExtTreeMap.contains_eq_isSome_getElem?, found]
      rfl

/-- A map is read from its pairs, in whatever order they are listed. -/
theorem entries_read {α : Type} {encode : α → Value} {decode : Value → Option α}
    (each : ∀ item, decode (encode item) = some item) (entries : List (String × α)) :
    Value.map? decode (.object (entries.map fun entry => (entry.1, encode entry.2))) =
      some (.ofList entries) := by
  have pairs : (entries.map fun entry => (entry.1, encode entry.2)).mapM
      (fun member => (decode member.2).map ((member.1, ·))) = some entries :=
    mapM_read fun entry _ => by rw [each, Option.map_some]
  rw [Value.map?, pairs, Option.map_some]

theorem map_read {α : Type} {encode : α → Value} {decode : Value → Option α}
    (each : ∀ item, decode (encode item) = some item) (map : NameMap α) :
    Value.map? decode (encodeMap encode map) = some map := by
  rw [encodeMap, entries_read each, ofList_toList]

/-- Takes in some members one after the other. -/
def takeAll (part : Partial) (members : List (String × Value)) : Option Partial :=
  members.foldlM (fun part member => part.take member.1 member.2) part

theorem takeAll_append (part : Partial) (front back : List (String × Value)) :
    takeAll part (front ++ back) = (takeAll part front).bind fun part => takeAll part back :=
  List.foldlM_append

theorem takeAll_one {part after : Partial} {key : String} {value : Value}
    (taken : part.take key value = some after) : takeAll part [(key, value)] = some after := by
  rw [takeAll, List.foldlM_cons, taken]
  rfl

/-- A part that is left out keeps its default; `next` says what comes of a part that is there. -/
theorem take_part {α : Type} (next : Option α → Partial) (held : Option α) {key : String}
    {encode : α → Value}
    (taken : ∀ content, (next none).take key (encode content) = some (next (some content))) :
    takeAll (next none) (writtenPart key encode held) = some (next held) := by
  cases held with
  | none => rfl
  | some content => exact takeAll_one (taken content)

theorem part_read {α : Type} {decode : Value → Option α} {value : Value} {content : α}
    (read : decode value = some content) (there : value ≠ .null) :
    value.part? decode = some (some content) := by
  rw [Value.part?, read, Option.map_some]
  exact there

theorem rules_read (rules : List Rule) :
    Value.list? Rule.decode? (.array (rules.map (Rule.encode Rule.Value.tagged))) = some rules :=
  list_read Rule.decode_encode rules

theorem names_read (names : List String) :
    Value.list? Value.string? (encodeNames names) = some names :=
  mapM_read fun _ _ => rfl

theorem groups_read (groups : List (List String)) :
    Value.list? (Value.list? Value.string?) (.array (groups.map encodeNames)) = some groups :=
  list_read names_read groups

theorem levels_read (levels : List (List Rule)) :
    Value.list? (Value.list? Rule.decode?)
      (.array (levels.map fun rules => .array (rules.map (Rule.encode Rule.Value.tagged)))) =
        some levels :=
  list_read rules_read levels

theorem decode_listed (listed : List (String × Rule)) (grammar : Grammar) :
    decode? (.object (grammar.listedMembers Rule.Value.tagged listed)) =
      some { grammar with rules := .ofList listed } := by
  obtain ⟨name, schema, inherits, _, extras, externals, inlined, precedences, conflicts,
    reserved, word, supertypes⟩ := grammar
  have decoded (members : List (String × Value)) :
      decode? (.object members) = (takeAll {} members).bind Partial.finish := rfl
  have nameTaken (part : Partial) : takeAll part [("name", .string name)] =
      some { part with name := some name } := takeAll_one rfl
  let rules : NameMap Rule := .ofList listed
  have rulesTaken (part : Partial) :
      takeAll part [("rules",
        .object (listed.map fun entry => (entry.1, Rule.encode Rule.Value.tagged entry.2)))] =
        some { part with rules := some rules } :=
    takeAll_one (by rw [Partial.take, entries_read Rule.decode_encode]; rfl)
  rw [listedMembers, decoded]
  simp only [takeAll_append]
  -- The parts fill in from the left; each one is still at its default when its turn comes.
  rw [take_part (fun schema => ⟨none, none, { name := "", schema }⟩) schema fun one => rfl,
    Option.bind_some, nameTaken, Option.bind_some,
    take_part (fun inherits => ⟨some name, none, { name := "", schema, inherits }⟩) inherits
      fun one => rfl,
    Option.bind_some, rulesTaken, Option.bind_some,
    take_part (fun extras => ⟨some name, some rules, { name := "", schema, inherits, extras }⟩)
      extras fun one => by rw [Partial.take, part_read (rules_read one) nofun]; rfl,
    Option.bind_some,
    take_part (fun externals =>
      ⟨some name, some rules, { name := "", schema, inherits, extras, externals }⟩)
      externals fun one => by rw [Partial.take, part_read (rules_read one) nofun]; rfl,
    Option.bind_some,
    take_part (fun inlined =>
      ⟨some name, some rules, { name := "", schema, inherits, extras, externals, inlined }⟩)
      inlined fun one => by rw [Partial.take, part_read (names_read one) nofun]; rfl,
    Option.bind_some,
    take_part (fun precedences => ⟨some name, some rules,
      { name := "", schema, inherits, extras, externals, inlined, precedences }⟩)
      precedences fun one => by rw [Partial.take, part_read (levels_read one) nofun]; rfl,
    Option.bind_some,
    take_part (fun conflicts => ⟨some name, some rules,
      { name := "", schema, inherits, extras, externals, inlined, precedences, conflicts }⟩)
      conflicts fun one => by rw [Partial.take, part_read (groups_read one) nofun]; rfl,
    Option.bind_some,
    take_part (fun reserved => ⟨some name, some rules,
      { name := "", schema, inherits, extras, externals, inlined, precedences, conflicts
        reserved }⟩)
      reserved fun one => by rw [Partial.take, part_read (map_read rules_read one) nofun]; rfl,
    Option.bind_some,
    take_part (fun word => ⟨some name, some rules,
      { name := "", schema, inherits, extras, externals, inlined, precedences, conflicts
        reserved, word }⟩)
      word fun one => rfl,
    Option.bind_some,
    take_part (fun supertypes => ⟨some name, some rules,
      { name := "", schema, inherits, extras, externals, inlined, precedences, conflicts
        reserved, word, supertypes }⟩)
      supertypes fun one => by rw [Partial.take, part_read (names_read one) nofun]; rfl,
    Option.bind_some]
  rfl

/-- A text that lists the rules of a grammar in some order is read as the grammar of these rules. -/
theorem read_listed (listed : List (String × Rule)) (grammar : Grammar) :
    read? (String.ofList (Value.object (grammar.listedMembers Rule.Value.bare listed)).chars) =
      some { grammar with rules := .ofList listed } := by
  rw [read?, String.toList_ofList, tag_listed,
    Json.Layout.read_chars (Place.legible_listed listed grammar), Option.bind_some, decode_listed]

/-- A written grammar is read back as it was, whatever its names and texts hold. -/
theorem read_text (grammar : Grammar) : read? grammar.text = some grammar := by
  have read := read_listed grammar.rules.toList grammar
  rw [ofList_toList] at read
  rw [text, untag_taggedText]
  exact read

end Grammar

end Treegram
