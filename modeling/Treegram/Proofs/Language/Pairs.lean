import Mathlib.Data.List.Perm.Subperm
import Treegram.Proofs.Grammar.Assembly
import Treegram.Proofs.Grammar.Verdict
import Treegram.Proofs.Language.Acceptance
import Treegram.Proofs.Language.RuleOrder

/-!
Grammars told by a list of named rules. Whether such a grammar loads can be asked of the list, without
the map that the rules are kept in.
-/

namespace Treegram

namespace TokenUse

theorem introduced_length_le (earlier uses : List TokenUse) :
    (introduced earlier uses).length ≤ uses.length := by
  induction uses generalizing earlier with
  | nil => exact Nat.le_refl _
  | cons use rest ih =>
      have behind := ih (earlier ++ [use])
      rw [introduced, List.length_append, List.length_cons]
      split
      · rw [List.length_singleton]
        omega
      · rw [List.length_nil]
        omega

theorem symbols_length (earlier uses : List TokenUse) :
    (symbols earlier uses).length = uses.length := by
  induction uses generalizing earlier with
  | nil => rfl
  | cons use rest ih => rw [symbols, List.length_cons, ih, List.length_cons]

theorem table_length_le (uses : List TokenUse) : (table uses).length ≤ uses.length := by
  rw [table, symbols_length]
  exact introduced_length_le [] uses

end TokenUse

theorem length_eraseDups_le {α : Type} [BEq α] [LawfulBEq α] (items : List α) :
    items.eraseDups.length ≤ items.length :=
  (List.subperm_of_subset (nodup_eraseDups items) fun _ found => List.mem_eraseDups.mp found).length_le

namespace Grammar

/-- A sound grammar has no defect for a check that is not strict. -/
theorem IsSound.defect {grammar : Grammar} (sound : grammar.IsSound) : grammar.defect? false = none := by
  have verdict := grammar.defect_verdict
  cases found : grammar.defect? false with
  | none => rfl
  | some defect =>
      rw [found] at verdict
      exact absurd sound verdict.1.not_sound

/-- No table is longer than all that may go into it. -/
theorem symbolTable_length_le (grammar : Grammar) (start : String) :
    (grammar.ownSymbols start ++ grammar.aliasSymbols start).length ≤
      1 + (grammar.tokenUses start).length + grammar.externalRules.length
        + (grammar.numberedRules start).length
        + ((grammar.numberedRules start).flatMap (·.2.aliases)).length := by
  have own : (grammar.ownSymbols start).length ≤ 1 + (grammar.tokenUses start).length
      + grammar.externalRules.length + (grammar.numberedRules start).length := by
    have tokens := TokenUse.table_length_le (grammar.tokenUses start)
    have externals := List.length_filterMap_le externalSymbol? grammar.externalRules
    have rules := List.length_filter_le (fun name => !grammar.takenNames.contains name)
      ((grammar.numberedRules start).map (·.1))
    rw [List.length_map] at rules
    simp only [ownSymbols, ruleSymbols, List.length_cons, List.length_append, List.length_map]
    omega
  have aliases : (grammar.aliasSymbols start).length ≤
      ((grammar.numberedRules start).flatMap (·.2.aliases)).length := by
    rw [aliasSymbols, List.length_map]
    exact Nat.le_trans (List.length_filter_le ..) (length_eraseDups_le _)
  rw [List.length_append]
  exact Nat.add_le_add own aliases

variable {base : Grammar} {pairs : List (String × Rule)} {start : String}

theorem mem_withRules {name : String} :
    name ∈ (base.withRules pairs).rules ↔ name ∈ pairs.map (·.1) := by
  rw [withRules, Std.ExtTreeMap.mem_ofList, List.contains_iff_mem]

/-- The rules of a list and those that are declared beside it. -/
def listedRules (base : Grammar) (pairs : List (String × Rule)) : List Rule :=
  pairs.map (·.2) ++ base.extraRules ++ base.externalRules

/-- All names that something in these rules, or what is declared beside them, refers to. -/
def listedReferences (base : Grammar) (pairs : List (String × Rule)) : List String :=
  (base.listedRules pairs).flatMap Rule.symbolNames ++ base.inlinedNames ++ base.supertypeNames
    ++ base.word.toList

/-- What is asked of a list of rules for their grammar to be sound. -/
structure IsListed (base : Grammar) (pairs : List (String × Rule)) (start : String) : Prop where
  distinct : (pairs.map (·.1)).Nodup
  complete : ∀ rule ∈ base.listedRules pairs, ∀ node ∈ rule.walk, node.lack? = none
  closed : ∀ rule ∈ pairs.map (·.2) ++ base.extraRules, ∀ name ∈ rule.symbolNames,
    name ∈ pairs.map (·.1) ∨ name ∈ base.externalNames
  word : ∀ name, base.word = some name → name ∈ pairs.map (·.1)
  supertypes : ∀ name ∈ base.supertypeNames, name ∈ pairs.map (·.1)
  begins : start ∈ pairs.map (·.1)
  /-- Nothing refers to the start rule, and to every other rule something does. -/
  roots : ∀ name ∈ pairs.map (·.1), name ∉ base.listedReferences pairs ↔ name = start

theorem listed_used {place : String} {rule : Rule} (distinct : (pairs.map (·.1)).Nodup)
    (used : (base.withRules pairs).Uses place rule) :
    rule ∈ pairs.map (·.2) ++ base.extraRules := by
  cases used with
  | named found =>
      exact List.mem_append_left _ (List.mem_map_of_mem ((getElem_ofList distinct place rule).mp found))
  | extra found => exact List.mem_append_right _ found

theorem listed_placed {place : String} {rule : Rule} (distinct : (pairs.map (·.1)).Nodup)
    (placed : (base.withRules pairs).Places place rule) : rule ∈ base.listedRules pairs := by
  cases placed with
  | used used => exact List.mem_append_left _ (listed_used distinct used)
  | external found => exact List.mem_append_right _ found

theorem mem_referencedNames (distinct : (pairs.map (·.1)).Nodup) {name : String} :
    name ∈ (base.withRules pairs).referencedNames ↔ name ∈ base.listedReferences pairs := by
  have values : ∀ rule, rule ∈ (base.withRules pairs).rules.values ↔ rule ∈ pairs.map (·.2) := by
    intro rule
    rw [values_eq]
    exact ((toList_ofList distinct).map (·.2)).mem_iff.symm
  rw [referencedNames, mem_ascending, listedReferences, listedRules]
  simp only [List.mem_append, List.mem_flatMap, values]
  exact Iff.rfl

theorem IsListed.isSound (listed : base.IsListed pairs start) : (base.withRules pairs).IsSound := by
  have root (name : String) : (base.withRules pairs).IsRoot name ↔ name = start := by
    rw [IsRoot, mem_withRules, mem_referencedNames listed.distinct]
    constructor
    · rintro ⟨held, free⟩
      exact (listed.roots name held).mp free
    · rintro rfl
      exact ⟨listed.begins, (listed.roots name listed.begins).mpr rfl⟩
  constructor
  case root => exact ⟨start, (root start).mpr rfl, fun name found => (root name).mp found⟩
  case toIsConsistent =>
    constructor
    case rules => exact ⟨start, mem_withRules.mpr listed.begins⟩
    case complete =>
      intro place rule placed node inside
      exact Rule.lack_eq_none_iff.mp
        (listed.complete rule (listed_placed listed.distinct placed) node (Rule.mem_walk_iff.mpr inside))
    case closed =>
      intro place rule used node inside kind name named
      have reference : name ∈ rule.symbolNames := mem_symbolNames.mpr ⟨node, inside, kind, named⟩
      rw [Defines, mem_withRules]
      exact (listed.closed rule (listed_used listed.distinct used) name reference).imp_right
        mem_externalNames.mp
    case word => exact fun name held => mem_withRules.mpr (listed.word name held)
    case supertypes => exact fun name held => mem_withRules.mpr (listed.supertypes name held)

/-- The rules are numbered in some order. -/
theorem numberedRules_perm (distinct : (pairs.map (·.1)).Nodup) (start : String) :
    ((base.withRules pairs).numberedRules start).Perm pairs := by
  rw [numberedRules, List.partition_eq_filter_filter]
  exact (List.filter_append_perm ..).trans (toList_ofList distinct).symm

/-- The uses of tokens in the rules of a list and in the extras beside it. -/
def listedUses (base : Grammar) (pairs : List (String × Rule)) : List TokenUse :=
  pairs.flatMap ruleUses ++ base.extraRules.flatMap extraUses

theorem tokenUses_perm (distinct : (pairs.map (·.1)).Nodup) (start : String) :
    ((base.withRules pairs).tokenUses start).Perm (base.listedUses pairs) :=
  ((numberedRules_perm distinct start).flatMap_right ruleUses).append_right _

/-- The grammar of a list loads if the list is as it should be, the tokens that are used can be made,
and all that may need a number does not need too many. -/
theorem IsListed.loads (listed : base.IsListed pairs start)
    (usable : ∀ use ∈ base.listedUses pairs, use.IsUsable)
    (few : 1 + (base.listedUses pairs).length + base.externalRules.length + pairs.length
      + (pairs.flatMap (·.2.aliases)).length ≤ 65536) :
    ∃ language, (Language.load {} (base.withRules pairs)).1 = .ok language := by
  rw [Language.loads_iff]
  have uses (start : String) := @tokenUses_perm base pairs listed.distinct start
  have made : ∀ use ∈ (base.withRules pairs).tokenUses start, use.IsUsable :=
    fun use held => usable use ((uses start).mem_iff.mp held)
  obtain ⟨free, compiles⟩ := (usable_iff _ start).mp made
  refine ⟨?sound, free, compiles, ?fits⟩
  case sound => rw [check, listed.isSound.defect]
  case fits =>
    have most := symbolTable_length_le (base.withRules pairs) ((base.withRules pairs).startRule?.getD "")
    have rules := @numberedRules_perm base pairs listed.distinct
      ((base.withRules pairs).startRule?.getD "")
    rw [(uses _).length_eq, rules.length_eq, (rules.flatMap_right (·.2.aliases)).length_eq] at most
    exact Nat.le_trans most few

end Grammar

end Treegram
