import Mathlib.Data.Nat.Digits.Defs
import Mathlib.Data.Set.Card
import Treegram.Proofs.Language.InlineTokens
import Treegram.Proofs.Language.Pairs

/-!
The numbers of fields. The names that fields have are numbered from 1 on in the order of their bytes,
and a number leads back to its name. All names are in the table, but those behind the last number of
16 bits have no number.
-/

namespace Treegram

section Ascending
variable {α : Type} {less : α → α → Prop} {items : List α}

/-- In an ascending list the first items are the ones below the next. -/
theorem mem_take_iff (asymmetric : ∀ item other, less item other → ¬ less other item)
    (ascending : items.Pairwise less) {index : Nat} (inside : index < items.length) {item : α} :
    item ∈ items.take index ↔ item ∈ items ∧ less item items[index] := by
  have below := List.pairwise_iff_getElem.mp ascending
  rw [List.mem_take_iff_getElem]
  constructor
  · rintro ⟨place, within, rfl⟩
    exact ⟨List.getElem_mem _, below place index _ inside (by omega)⟩
  · rintro ⟨member, small⟩
    obtain ⟨place, within, rfl⟩ := List.mem_iff_getElem.mp member
    have other : ¬ index < place := fun later =>
      asymmetric _ _ small (below index place inside within later)
    have apart : place ≠ index := by
      rintro rfl
      exact asymmetric _ _ small small
    exact ⟨place, by omega, rfl⟩

end Ascending

theorem ncard_mem {α : Type} {items : List α} (distinct : items.Nodup) :
    {item | item ∈ items}.ncard = items.length := by
  classical
  rw [← List.toFinset_card_of_nodup distinct, ← Set.ncard_coe_finset, List.coe_toFinset]

theorem findIdx_eq_some {names : List String} (distinct : names.Nodup) {name : String} {index : Nat} :
    names.findIdx? (· == name) = some index ↔ names[index]? = some name := by
  rw [List.findIdx?_eq_some_iff_getElem, List.getElem?_eq_some_iff]
  refine exists_congr fun inside => ?_
  simp only [beq_iff_eq]
  refine and_iff_left_of_imp fun here place earlier same => ?_
  exact absurd (distinct.getElem_inj_iff.mp (same.trans here.symm)) (Nat.ne_of_lt earlier)

theorem utf8Bytes_asymmetric (name other : String)
    (below : Unicode.utf8Bytes name < Unicode.utf8Bytes other) :
    ¬ Unicode.utf8Bytes other < Unicode.utf8Bytes name :=
  List.lt_asymm below

namespace Grammar
variable {grammar : Grammar}

/-- Some node of a rule is a field with this name. -/
def GivesField (grammar : Grammar) (name : String) : Prop :=
  ∃ (place : String) (rule node : Rule), grammar.rules[place]? = some rule ∧ rule.Contains node
    ∧ node.kind = .field ∧ node.name = some name

/-- One more than the fields whose names have smaller bytes. -/
noncomputable def fieldNumber (grammar : Grammar) (name : String) : Nat :=
  1 + {other | grammar.GivesField other ∧ Unicode.utf8Bytes other < Unicode.utf8Bytes name}.ncard

theorem mem_ruleFields {rule : Rule} {name : String} :
    name ∈ rule.fieldNames ↔
      ∃ node, rule.Contains node ∧ node.kind = .field ∧ node.name = some name := by
  simp only [Rule.fieldNames, List.mem_filterMap, Rule.mem_walk_iff, Option.ite_none_right_eq_some]

theorem mem_fieldNames {name : String} : name ∈ grammar.fieldNames ↔ grammar.GivesField name := by
  simp only [fieldNames, mem_ascending, List.mem_flatMap, values_eq, List.mem_map, Prod.exists,
    exists_eq_right, Std.ExtTreeMap.mem_toList_iff_getElem?_eq_some, mem_ruleFields, GivesField]
  grind

theorem fieldNames_ascending (grammar : Grammar) :
    grammar.fieldNames.Pairwise fun name other => Unicode.utf8Bytes name < Unicode.utf8Bytes other :=
  (ascending_pairwise _).imp Unicode.utf8Bytes_lt

theorem fieldNames_nodup (grammar : Grammar) : grammar.fieldNames.Nodup :=
  nodup_of_ascending (ascending_pairwise _)

/-- The place of a name among the names of fields is told by the names below it. -/
theorem fieldNumber_place {name : String} {index : Nat}
    (here : grammar.fieldNames[index]? = some name) : grammar.fieldNumber name = 1 + index := by
  obtain ⟨inside, rfl⟩ := List.getElem?_eq_some_iff.mp here
  have below : {other | grammar.GivesField other
      ∧ Unicode.utf8Bytes other < Unicode.utf8Bytes grammar.fieldNames[index]} =
      {other | other ∈ grammar.fieldNames.take index} := by
    ext other
    rw [Set.mem_ofPred_eq, Set.mem_ofPred_eq, ← mem_fieldNames,
      mem_take_iff utf8Bytes_asymmetric grammar.fieldNames_ascending inside]
  have distinct := grammar.fieldNames_nodup.sublist (List.take_sublist index _)
  rw [fieldNumber, below, ncard_mem distinct, List.length_take, Nat.min_eq_left inside.le]

/-- A field's number says where its name stands. -/
theorem fieldName_place {name : String} {id : Nat} :
    grammar.GivesField name ∧ id = grammar.fieldNumber name ↔
      id ≠ 0 ∧ grammar.fieldNames[id - 1]? = some name := by
  constructor
  · rintro ⟨given, rfl⟩
    obtain ⟨index, here⟩ := List.mem_iff_getElem?.mp (mem_fieldNames.mpr given)
    rw [fieldNumber_place here, Nat.add_sub_cancel_left]
    exact ⟨by omega, here⟩
  · rintro ⟨positive, here⟩
    refine ⟨mem_fieldNames.mp (List.mem_of_getElem? here), ?_⟩
    rw [fieldNumber_place here]
    omega

end Grammar

namespace Language
variable {options : LoadOptions} {grammar : Grammar} {language : Language}

theorem load_fieldTable (done : (load options grammar).1 = .ok language) :
    language.fields = grammar.fieldNames.toArray := by
  obtain ⟨_, start, numbered, _, _, rfl, _⟩ := load_contents done
  rfl

theorem fieldName_eq_some (fields : language.fields = grammar.fieldNames.toArray) {name : String}
    {id : Nat} : language.fieldName? id = some name ↔
      grammar.GivesField name ∧ id = grammar.fieldNumber name := by
  rw [Grammar.fieldName_place, fieldName?, fields, List.getElem?_toArray]
  by_cases zero : id = 0 <;> simp [zero]

theorem fieldId_eq_some (fields : language.fields = grammar.fieldNames.toArray) {name : String}
    {id : Nat} : language.fieldId? name = some id ↔
      grammar.GivesField name ∧ id = grammar.fieldNumber name ∧ id < 65536 := by
  rw [← and_assoc, Grammar.fieldName_place, fieldId?, fields, Option.bind_eq_some_iff]
  simp only [findIdx_eq_some grammar.fieldNames_nodup, Option.ite_none_right_eq_some,
    Option.some.injEq]
  constructor
  · rintro ⟨index, here, small, rfl⟩
    exact ⟨⟨by omega, here⟩, small⟩
  · rintro ⟨⟨positive, here⟩, small⟩
    have next : id - 1 + 1 = id := by omega
    exact ⟨id - 1, here, next ▸ small, next⟩

theorem fieldCount_eq (fields : language.fields = grammar.fieldNames.toArray) :
    language.fieldCount = grammar.fieldNames.length := by
  rw [fieldCount, fields, List.size_toArray]

/-- The names that lead to a number are those of fields, as long as 16 bits suffice for the number,
which is one more than the number of names below. Numbers lead back to these names, and 0 to none. So
every field has a number just if there are no more of them than numbers. -/
theorem load_fields (done : (load options grammar).1 = .ok language) :
    (∀ name id, language.fieldId? name = some id ↔
        grammar.GivesField name ∧ id = grammar.fieldNumber name ∧ id < 65536)
      ∧ (∀ id < 65536, ∀ name, language.fieldName? id = some name ↔
        language.fieldId? name = some id)
      ∧ language.fieldName? 0 = none
      ∧ language.fieldCount = {name | grammar.GivesField name}.ncard
      ∧ ((∀ name, (∃ id, language.fieldId? name = some id) ↔ grammar.GivesField name) ↔
        language.fieldCount < 65536) := by
  have fields := load_fieldTable done
  have count := fieldCount_eq fields
  refine ⟨fun name id => fieldId_eq_some fields, fun id small name => ?_, rfl, ?_, ?_⟩
  · rw [fieldName_eq_some fields, fieldId_eq_some fields]
    tauto
  · simp only [count, ← Grammar.mem_fieldNames, ncard_mem grammar.fieldNames_nodup]
  · rw [count]
    constructor
    · intro all
      by_contra many
      -- The name behind the last number has one that is too large.
      have inside : 65535 < grammar.fieldNames.length := by omega
      have here := List.getElem?_eq_getElem inside
      have given := Grammar.mem_fieldNames.mp (List.getElem_mem inside)
      obtain ⟨id, found⟩ := (all _).mpr given
      obtain ⟨_, rfl, small⟩ := (fieldId_eq_some fields).mp found
      rw [Grammar.fieldNumber_place here] at small
      omega
    · intro few name
      refine ⟨fun ⟨id, found⟩ => ((fieldId_eq_some fields).mp found).1, fun given => ?_⟩
      obtain ⟨index, here⟩ := List.mem_iff_getElem?.mp (Grammar.mem_fieldNames.mpr given)
      have inside := (List.getElem?_eq_some_iff.mp here).1
      have number := Grammar.fieldNumber_place here
      exact ⟨grammar.fieldNumber name, (fieldId_eq_some fields).mpr ⟨given, rfl, by omega⟩⟩

/-- Fields inside of each other and beside each other, one name twice. -/
def labellingGrammar : Grammar where
  name := "labelling"
  rules := Std.ExtTreeMap.ofList
    [("program", Rule.many (Rule.field "right" (Rule.seq
        [.field "left" (.symbol "item"), .field "Top" .blank]))),
      ("item", Rule.field "left" (.string "x"))]

theorem load_fields_labelling :
    ∃ language, (load {} labellingGrammar).1 = .ok language
      ∧ (∀ name, (∃ id, language.fieldId? name = some id) ↔ labellingGrammar.GivesField name)
      ∧ language.fieldName? 1 = some "Top" ∧ language.fieldId? "Top" = some 1
      ∧ labellingGrammar.fieldNumber "right" = 3 := by
  obtain ⟨language, done, first, last, few⟩ :
      ∃ language, (load {} labellingGrammar).1 = .ok language
        ∧ language.fieldName? 1 = some "Top" ∧ language.fieldName? 3 = some "right"
        ∧ language.fieldCount < 65536 := by decide +kernel
  obtain ⟨ids, names, _, _, all⟩ := load_fields done
  have right := (names 3 (by decide) "right").mp last
  exact ⟨language, done, all.mpr few, first, (names 1 (by decide) "Top").mp first,
    ((ids "right" 3).mp right).2.1.symm⟩

end Language

/-! ## More fields than numbers -/

/-- A field name for each number. -/
def labelName (number : Nat) : String := "f" ++ toString number

/-- A rule with so many fields. -/
def labelledRule (count : Nat) : Rule :=
  .seq ((List.range count).map fun number => .field (labelName number) .blank)

/-- A grammar of this rule alone. -/
def labelledGrammar (count : Nat) : Grammar :=
  ({ name := "g" } : Grammar).withRules [("m", labelledRule count)]

theorem labelName_injective : Function.Injective labelName := by
  intro number other same
  have digits := congrArg String.toList same
  simp only [labelName, String.toList_append, List.append_cancel_left_eq, Nat.toString_eq_repr,
    Nat.toList_repr] at digits
  rw [← @Nat.ofDigitChars_ten_toDigits number, ← @Nat.ofDigitChars_ten_toDigits other, digits]

theorem labelledRule_walk (count : Nat) : (labelledRule count).walk =
    labelledRule count :: (List.range count).flatMap fun number =>
      [.field (labelName number) .blank, .blank] := by
  rw [Rule.walk_eq, labelledRule, Rule.seq, Rule.children, Option.toList_none, List.nil_append,
    List.flatMap_map]
  rfl

theorem labelledRule_tokens (count : Nat) : (labelledRule count).inlineTokens = [] := by
  rw [Rule.inlineTokens_other rfl, labelledRule, Rule.seq, Rule.children, Option.toList_none,
    List.nil_append, List.flatMap_map, List.flatMap_eq_nil_iff]
  exact fun _ _ => rfl

/-- No part of the rule is missing, and none refers to anything or gives a name to a node. -/
theorem labelledRule_nodes {count : Nat} (some : 0 < count) :
    ∀ node ∈ (labelledRule count).walk,
      node.lack? = none ∧ node.symbolName? = none ∧ node.kind ≠ .aliased := by
  intro node inside
  rw [labelledRule_walk, List.mem_cons, List.mem_flatMap] at inside
  rcases inside with rfl | ⟨number, _, inside⟩
  · obtain ⟨less, rfl⟩ := Nat.exists_eq_add_one.mpr some
    rw [labelledRule, List.range_succ_eq_map]
    exact ⟨rfl, rfl, nofun⟩
  · rcases List.mem_pair.mp inside with rfl | rfl <;> exact ⟨rfl, rfl, nofun⟩

theorem labelledGrammar_loads {count : Nat} (some : 0 < count) :
    ∃ language, (Language.load {} (labelledGrammar count)).1 = .ok language := by
  have nodes := labelledRule_nodes some
  have names : (labelledRule count).symbolNames = [] :=
    List.filterMap_eq_nil_iff.mpr fun node inside => (nodes node inside).2.1
  have aliases : (labelledRule count).aliases = [] :=
    List.filterMap_eq_nil_iff.mpr fun node inside => if_neg (nodes node inside).2.2
  have uses : ({ name := "g" } : Grammar).listedUses [("m", labelledRule count)] = [] := by
    have lexical : (labelledRule count).lexicalBody? = none := by
      rw [labelledRule, Rule.lexicalBody?, Rule.fold_eq]
      rfl
    simp [Grammar.listedUses, Grammar.ruleUses, lexical, labelledRule_tokens, Grammar.extraRules]
  -- With one rule that refers to nothing, every check has next to nothing to look at.
  have listed : ({ name := "g" } : Grammar).IsListed [("m", labelledRule count)] "m" := by
    constructor
    case distinct => exact List.nodup_singleton _
    case complete =>
      intro rule held node inside
      obtain rfl := List.mem_singleton.mp held
      exact (nodes node inside).1
    case closed =>
      intro rule held name inside
      obtain rfl := List.mem_singleton.mp held
      rw [names] at inside
      cases inside
    case word =>
      intro name declared
      cases declared
    case supertypes => exact List.forall_mem_nil _
    case begins => exact List.mem_singleton_self _
    case roots =>
      intro name held
      obtain rfl := List.mem_singleton.mp held
      simp [Grammar.listedReferences, Grammar.listedRules, names, Grammar.extraRules,
        Grammar.externalRules, Grammar.inlinedNames, Grammar.supertypeNames]
  refine listed.loads ?_ ?_
  · rw [uses]
    exact List.forall_mem_nil _
  · rw [uses]
    simp [aliases, Grammar.externalRules]

theorem labelledGrammar_gives {count : Nat} {name : String} :
    (labelledGrammar count).GivesField name ↔ ∃ number < count, labelName number = name := by
  have distinct : ([("m", labelledRule count)].map (·.1)).Nodup := List.nodup_singleton _
  have rules (place : String) (rule : Rule) : (labelledGrammar count).rules[place]? = some rule ↔
      (place, rule) ∈ [("m", labelledRule count)] := getElem_ofList distinct place rule
  simp only [Grammar.GivesField, rules, Prod.mk.injEq, ← Rule.mem_walk_iff,
    labelledRule_walk, and_assoc, exists_and_left, exists_eq_left, List.mem_cons, List.mem_flatMap,
    List.mem_range, List.not_mem_nil, or_false]
  constructor
  · rintro ⟨node, rfl | ⟨number, small, rfl | rfl⟩, kind, named⟩
    · cases kind
    · exact ⟨number, small, Option.some.inj named⟩
    · cases kind
  · rintro ⟨number, small, rfl⟩
    exact ⟨.field (labelName number) .blank, .inr ⟨number, small, .inl rfl⟩, rfl, rfl⟩

/-- No digit is above 9. -/
theorem digits_below {digits : List Char} (all : ∀ c ∈ digits, c.isDigit = true) {count : Nat}
    (short : digits.length ≤ count) (other : digits ≠ List.replicate count '9') :
    digits < List.replicate count '9' := by
  induction count generalizing digits with
  | zero => exact absurd (List.length_eq_zero_iff.mp (Nat.le_zero.mp short)) other
  | succ count ih =>
      rw [List.replicate_succ] at other ⊢
      cases digits with
      | nil => exact List.Lex.nil
      | cons c rest =>
          obtain ⟨digit, behind⟩ := List.forall_mem_cons.mp all
          by_cases last : c = '9'
          · subst last
            refine List.Lex.cons (ih behind (Nat.le_of_succ_le_succ short) ?_)
            exact fun same => other (congrArg _ same)
          · have most : c ≤ '9' := by
              simp only [Char.isDigit, Bool.and_eq_true, decide_eq_true_eq] at digit
              exact digit.2
            exact List.Lex.rel (Char.not_le.mp fun least => last (Char.le_antisymm most least))

theorem labelName_below {number : Nat} (small : number < 65536) (other : number ≠ 9999) :
    Unicode.utf8Bytes (labelName number) < Unicode.utf8Bytes (labelName 9999) := by
  have digits : ∀ c ∈ Nat.toDigits 10 number, c.isDigit = true :=
    fun _ found => Nat.isDigit_of_mem_toDigits (by decide) (by decide) found
  have shape (number : Nat) : (labelName number).toList = 'f' :: Nat.toDigits 10 number := by
    simp [labelName, Nat.toString_eq_repr]
  have below : Nat.toDigits 10 number < Nat.toDigits 10 9999 := by
    by_cases short : number < 10000
    · refine digits_below digits (Nat.toDigits_length 10 number 4 (by decide) short) fun same => ?_
      exact other (by
        rw [← @Nat.ofDigitChars_ten_toDigits number, same]
        rfl)
    · -- Of five digits the first is at most 6.
      have more : 10000 ≤ number := by omega
      have first : Nat.toDigits 10 (number / 10 / 10 / 10 / 10) =
          [(number / 10 / 10 / 10 / 10).digitChar] := Nat.toDigits_of_lt_base (by omega)
      have less : ∀ first < 9, Nat.digitChar first < '9' := by decide
      rw [Nat.toDigits_of_base_le (by decide) (by omega), Nat.toDigits_of_base_le (by decide) (by omega),
        Nat.toDigits_of_base_le (by decide) (by omega), Nat.toDigits_of_base_le (by decide) (by omega),
        first]
      exact List.Lex.rel (less _ (by omega))
  rw [Unicode.utf8Bytes_eq, Unicode.utf8Bytes_eq, shape, shape]
  exact Unicode.encoded_lt (List.Lex.cons below)

/-- The last field by name is one more than can be numbered, and has no number. -/
theorem load_fields_many :
    ∃ language, (Language.load {} (labelledGrammar 65536)).1 = .ok language
      ∧ (labelledGrammar 65536).GivesField "f9999"
      ∧ (labelledGrammar 65536).fieldNumber "f9999" = 65536 ∧ language.fieldId? "f9999" = none := by
  obtain ⟨language, done⟩ := @labelledGrammar_loads 65536 (by decide)
  have name : labelName 9999 = "f9999" := by decide
  have given : (labelledGrammar 65536).GivesField "f9999" :=
    labelledGrammar_gives.mpr ⟨9999, by decide, name⟩
  have number : (labelledGrammar 65536).fieldNumber "f9999" = 65536 := by
    -- All other names are below this one.
    have others : {other | (labelledGrammar 65536).GivesField other
        ∧ Unicode.utf8Bytes other < Unicode.utf8Bytes "f9999"} =
        labelName '' (Set.Iio 65536 \ {9999}) := by
      ext other
      simp only [Set.mem_ofPred_eq, labelledGrammar_gives, Set.mem_image, Set.mem_sdiff, Set.mem_Iio,
        Set.mem_singleton_iff]
      constructor
      · rintro ⟨⟨number, small, rfl⟩, below⟩
        refine ⟨number, ⟨small, ?_⟩, rfl⟩
        rintro rfl
        exact utf8Bytes_asymmetric _ _ below (name ▸ below)
      · rintro ⟨number, ⟨small, apart⟩, rfl⟩
        exact ⟨⟨number, small, rfl⟩, name ▸ labelName_below small apart⟩
    rw [Grammar.fieldNumber, others, Set.ncard_image_of_injective _ labelName_injective,
      Set.ncard_sdiff_singleton_of_mem (show 9999 ∈ Set.Iio 65536 by decide), ← Finset.coe_range,
      Set.ncard_coe_finset, Finset.card_range]
  refine ⟨language, done, given, number, ?_⟩
  have fields := Language.load_fieldTable done
  cases found : language.fieldId? "f9999" with
  | none => rfl
  | some id =>
      obtain ⟨_, rfl, small⟩ := (Language.fieldId_eq_some fields).mp found
      rw [number] at small
      exact absurd small (by decide)

end Treegram
