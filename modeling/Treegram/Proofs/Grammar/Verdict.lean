import Mathlib.Logic.ExistsUnique
import Treegram.Grammar.Defect
import Treegram.Proofs.Unicode.ByteOrder
import Treegram.Rule.Combinators

/-!
What a check finds. The questions asked of a grammar are stated by themselves, without the order
in which they are asked: a check that is not strict finds nothing exactly if all of them are
met, and what it reports is the first one that is not, with a witness.
-/

namespace Treegram

namespace Rule

/-- A node of a rule's tree: the rule itself, or a node of its content or of one of its members. -/
inductive Contains : Rule → Rule → Prop where
  | self (rule : Rule) : Contains rule rule
  | content {rule inner node : Rule} (held : rule.content = some inner)
      (inside : Contains inner node) : Contains rule node
  | member {rule inner node : Rule} (held : inner ∈ rule.members)
      (inside : Contains inner node) : Contains rule node

theorem Contains.child {rule child node : Rule} (found : child ∈ rule.children)
    (inside : child.Contains node) : rule.Contains node := by
  rcases List.mem_append.mp found with content | member
  · exact .content (Option.mem_toList.mp content) inside
  · exact .member member inside

theorem mem_walk_iff {rule node : Rule} : node ∈ rule.walk ↔ rule.Contains node := by
  constructor
  · induction rule using childInduction with
    | step rule ih =>
        rw [walk_eq, List.mem_cons, List.mem_flatMap]
        rintro (rfl | ⟨child, found, inside⟩)
        · exact .self node
        · exact .child found (ih child found inside)
  · intro contained
    have step {rule child node : Rule} (found : child ∈ rule.children) (inside : node ∈ child.walk) :
        node ∈ rule.walk := by
      rw [walk_eq]
      exact List.mem_cons_of_mem _ (List.mem_flatMap.mpr ⟨child, found, inside⟩)
    induction contained with
    | self rule =>
        rw [walk_eq]
        exact List.mem_cons_self
    | content held _ ih => exact step (List.mem_append_left _ (Option.mem_toList.mpr held)) ih
    | member held _ ih => exact step (List.mem_append_right _ held) ih

/-- A part that the node's kind needs is not there. -/
def Misses (node : Rule) : Lack → Prop
  | .stringValue => (node.kind = .string ∨ node.kind = .pattern) ∧ node.text? = none
  | .symbolName => node.kind = .symbol ∧ node.name = none
  | .fieldName => node.kind = .field ∧ node.name = none
  | .aliasValue => node.kind = .aliased ∧ node.text? = none
  | .members => (node.kind = .seq ∨ node.kind = .choice) ∧ node.members = []
  | .content => node.kind.isUnary = true ∧ node.content = none

/-- A node that has all the parts that its kind needs. -/
def IsComplete (node : Rule) : Prop := ∀ lack, ¬ node.Misses lack

theorem lack_misses {node : Rule} {lack : Lack} (found : node.lack? = some lack) :
    node.Misses lack := by
  rw [lack?] at found
  cases lack <;> grind [Misses, Kind.isUnary, Option.isNone_iff_eq_none, List.isEmpty_iff]

theorem lack_of_misses {node : Rule} {lack : Lack} (missed : node.Misses lack) :
    node.lack? ≠ none := by
  intro none
  rw [lack?] at none
  cases lack <;> grind [Misses, Kind.isUnary]

theorem lack_eq_none_iff {node : Rule} : node.lack? = none ↔ node.IsComplete := by
  constructor
  · exact fun none _ missed => lack_of_misses missed none
  · intro complete
    cases found : node.lack? with
    | none => rfl
    | some lack => exact absurd (lack_misses found) (complete lack)

theorem symbolName_eq_some {node : Rule} {name : String} :
    node.symbolName? = some name ↔ node.kind = .symbol ∧ node.name = some name := by
  rw [symbolName?, isSymbol]
  by_cases kind : node.kind = .symbol <;> simp [kind]

end Rule

/-- Which question a defect answers. -/
inductive Defect.Variant where
  | noRules
  | malformed
  | undefinedSymbol
  | undefinedWord
  | undefinedSupertype
  | noStartRule
  | ambiguousStartRule
  | unreachableRule
  deriving DecidableEq

def Defect.variant : Defect → Defect.Variant
  | noRules => .noRules
  | malformed .. => .malformed
  | undefinedSymbol .. => .undefinedSymbol
  | undefinedWord _ => .undefinedWord
  | undefinedSupertype _ => .undefinedSupertype
  | noStartRule => .noStartRule
  | ambiguousStartRule _ => .ambiguousStartRule
  | unreachableRule _ => .unreachableRule

namespace Grammar

/-! ## What is asked -/

/-- The rules that a grammar is made of, each with the place it goes by: its name, or `extras`. -/
inductive Uses (grammar : Grammar) : String → Rule → Prop where
  | named {name : String} {rule : Rule} (found : grammar.rules[name]? = some rule) :
      Uses grammar name rule
  | extra {rule : Rule} (found : rule ∈ grammar.extraRules) : Uses grammar "extras" rule

/-- The rules that a grammar is made of and those that declare its external tokens. -/
inductive Places (grammar : Grammar) : String → Rule → Prop where
  | used {place : String} {rule : Rule} (used : grammar.Uses place rule) : Places grammar place rule
  | external {rule : Rule} (found : rule ∈ grammar.externalRules) : Places grammar "externals" rule

/-- A name that a reference may refer to. -/
def Defines (grammar : Grammar) (name : String) : Prop :=
  name ∈ grammar.rules ∨ ∃ rule ∈ grammar.externalRules, externalName? rule = some name

def HasRules (grammar : Grammar) : Prop := ∃ name, name ∈ grammar.rules

/-- Every node of every rule has the parts it needs. -/
def IsComplete (grammar : Grammar) : Prop :=
  ∀ place rule, grammar.Places place rule → ∀ node, rule.Contains node → node.IsComplete

/-- Every reference in a rule or an extra refers to something. -/
def IsClosed (grammar : Grammar) : Prop :=
  ∀ place rule, grammar.Uses place rule → ∀ node, rule.Contains node → node.kind = .symbol →
    ∀ name, node.name = some name → grammar.Defines name

def WordIsRule (grammar : Grammar) : Prop := ∀ word, grammar.word = some word → word ∈ grammar.rules

def SupertypesAreRules (grammar : Grammar) : Prop :=
  ∀ name ∈ grammar.supertypeNames, name ∈ grammar.rules

/-- A rule that nothing refers to. -/
def IsRoot (grammar : Grammar) (name : String) : Prop :=
  name ∈ grammar.rules ∧ name ∉ grammar.referencedNames

/-- All that is asked before the start rule is looked for. -/
structure IsConsistent (grammar : Grammar) : Prop where
  rules : grammar.HasRules
  complete : grammar.IsComplete
  closed : grammar.IsClosed
  word : grammar.WordIsRule
  supertypes : grammar.SupertypesAreRules

structure IsSound (grammar : Grammar) : Prop extends grammar.IsConsistent where
  root : ∃! name, grammar.IsRoot name

/-- The first thing asked that is not met. -/
def FirstUnmet (grammar : Grammar) : Defect.Variant → Prop
  | .noRules => ¬ grammar.HasRules
  | .malformed => grammar.HasRules ∧ ¬ grammar.IsComplete
  | .undefinedSymbol => grammar.HasRules ∧ grammar.IsComplete ∧ ¬ grammar.IsClosed
  | .undefinedWord =>
      grammar.HasRules ∧ grammar.IsComplete ∧ grammar.IsClosed ∧ ¬ grammar.WordIsRule
  | .undefinedSupertype =>
      grammar.HasRules ∧ grammar.IsComplete ∧ grammar.IsClosed ∧ grammar.WordIsRule
        ∧ ¬ grammar.SupertypesAreRules
  | .noStartRule => grammar.IsConsistent ∧ ∀ name, ¬ grammar.IsRoot name
  | .ambiguousStartRule =>
      grammar.IsConsistent ∧ ∃ name other, grammar.IsRoot name ∧ grammar.IsRoot other ∧ name ≠ other
  | .unreachableRule => False

/-- What a report names is to be found in the grammar. -/
def Shows (grammar : Grammar) : Defect → Prop
  | .noRules | .noStartRule => True
  | .malformed place kind lack =>
      ∃ rule, grammar.Places place rule
        ∧ ∃ node, rule.Contains node ∧ node.kind = kind ∧ node.Misses lack
  | .undefinedSymbol symbol place =>
      ¬ grammar.Defines symbol ∧ ∃ rule, grammar.Uses place rule
        ∧ ∃ node, rule.Contains node ∧ node.kind = .symbol ∧ node.name = some symbol
  | .undefinedWord name => grammar.word = some name ∧ name ∉ grammar.rules
  | .undefinedSupertype name => name ∈ grammar.supertypeNames ∧ name ∉ grammar.rules
  | .ambiguousStartRule candidates =>
      candidates.Pairwise (fun name other => Unicode.utf8Bytes name < Unicode.utf8Bytes other)
        ∧ ∀ name, name ∈ candidates ↔ grammar.IsRoot name
  | .unreachableRule name => name ∈ grammar.rules

/-! ## The searches -/

variable {grammar : Grammar}

theorem mem_ruleAndExtraPlaces {place : String} {rule : Rule} :
    (place, rule) ∈ grammar.ruleAndExtraPlaces ↔ grammar.Uses place rule := by
  rw [ruleAndExtraPlaces, List.mem_append, Std.ExtTreeMap.mem_toList_iff_getElem?_eq_some,
    List.mem_map]
  constructor
  · rintro (found | ⟨extra, found, same⟩)
    · exact .named found
    · obtain ⟨rfl, rfl⟩ := Prod.mk.inj same
      exact .extra found
  · rintro (found | found)
    · exact .inl found
    · exact .inr ⟨rule, found, rfl⟩

theorem mem_places {place : String} {rule : Rule} :
    (place, rule) ∈ grammar.places ↔ grammar.Places place rule := by
  rw [places, List.mem_append, mem_ruleAndExtraPlaces, List.mem_map]
  constructor
  · rintro (used | ⟨external, found, same⟩)
    · exact .used used
    · obtain ⟨rfl, rfl⟩ := Prod.mk.inj same
      exact .external found
  · rintro (used | found)
    · exact .inl used
    · exact .inr ⟨rule, found, rfl⟩

theorem malformed_eq_none : grammar.malformed? = none ↔ grammar.IsComplete := by
  simp only [malformed?, List.findSome?_eq_none_iff, Option.map_eq_none_iff, Prod.forall,
    mem_places, Rule.mem_walk_iff, Rule.lack_eq_none_iff, IsComplete]

theorem malformed_eq_some {defect : Defect} (found : grammar.malformed? = some defect) :
    ∃ place rule node lack, defect = .malformed place node.kind lack ∧ grammar.Places place rule
      ∧ rule.Contains node ∧ node.Misses lack := by
  obtain ⟨⟨place, rule⟩, placed, found⟩ := List.exists_of_findSome?_eq_some found
  obtain ⟨node, inside, found⟩ := List.exists_of_findSome?_eq_some found
  obtain ⟨lack, missed, rfl⟩ := Option.map_eq_some_iff.mp found
  exact ⟨place, rule, node, lack, rfl, mem_places.mp placed, Rule.mem_walk_iff.mp inside,
    Rule.lack_misses missed⟩

theorem mem_externalNames {name : String} :
    name ∈ grammar.externalNames ↔ ∃ rule ∈ grammar.externalRules, externalName? rule = some name :=
  List.mem_filterMap

theorem mem_symbolNames {rule : Rule} {name : String} :
    name ∈ rule.symbolNames ↔
      ∃ node, rule.Contains node ∧ node.kind = .symbol ∧ node.name = some name := by
  simp only [Rule.symbolNames, List.mem_filterMap, Rule.mem_walk_iff, Rule.symbolName_eq_some]

theorem defined_iff {name : String} :
    (grammar.rules.contains name || grammar.externalNames.contains name) = true ↔
      grammar.Defines name := by
  rw [Bool.or_eq_true, Std.ExtTreeMap.contains_iff_mem, List.contains_iff_mem, mem_externalNames,
    Defines]

theorem undefinedSymbol_eq_none : grammar.undefinedSymbol? = none ↔ grammar.IsClosed := by
  simp only [undefinedSymbol?, List.findSome?_eq_none_iff, Prod.forall, mem_ruleAndExtraPlaces,
    mem_symbolNames, defined_iff, ite_eq_left_iff, reduceCtorEq, imp_false, Classical.not_not, IsClosed]
  grind

theorem undefinedSymbol_eq_some {defect : Defect} (found : grammar.undefinedSymbol? = some defect) :
    ∃ symbol place rule, defect = .undefinedSymbol symbol place ∧ ¬ grammar.Defines symbol
      ∧ grammar.Uses place rule ∧ symbol ∈ rule.symbolNames := by
  obtain ⟨⟨place, rule⟩, placed, found⟩ := List.exists_of_findSome?_eq_some found
  obtain ⟨symbol, inside, found⟩ := List.exists_of_findSome?_eq_some found
  rw [Option.ite_none_left_eq_some, defined_iff] at found
  obtain ⟨unknown, reported⟩ := found
  obtain rfl := Option.some.inj reported
  exact ⟨symbol, place, rule, rfl, unknown, mem_ruleAndExtraPlaces.mp placed, inside⟩

theorem undefinedWord_eq_none : grammar.undefinedWord? = none ↔ grammar.WordIsRule := by
  simp only [undefinedWord?, Option.bind_eq_none_iff, ite_eq_left_iff, reduceCtorEq, imp_false,
    Classical.not_not, Std.ExtTreeMap.contains_iff_mem, WordIsRule]

theorem undefinedWord_eq_some {defect : Defect} (found : grammar.undefinedWord? = some defect) :
    ∃ name, defect = .undefinedWord name ∧ grammar.word = some name ∧ name ∉ grammar.rules := by
  obtain ⟨name, held, found⟩ := Option.bind_eq_some_iff.mp found
  rw [Option.ite_none_left_eq_some, Std.ExtTreeMap.contains_iff_mem] at found
  exact ⟨name, (Option.some.inj found.2).symm, held, found.1⟩

theorem undefinedSupertype_eq_none :
    grammar.undefinedSupertype? = none ↔ grammar.SupertypesAreRules := by
  simp only [undefinedSupertype?, List.findSome?_eq_none_iff, ite_eq_left_iff, reduceCtorEq,
    imp_false, Classical.not_not, Std.ExtTreeMap.contains_iff_mem, SupertypesAreRules]

theorem undefinedSupertype_eq_some {defect : Defect}
    (found : grammar.undefinedSupertype? = some defect) :
    ∃ name, defect = .undefinedSupertype name ∧ name ∈ grammar.supertypeNames
      ∧ name ∉ grammar.rules := by
  obtain ⟨name, held, found⟩ := List.exists_of_findSome?_eq_some found
  rw [Option.ite_none_left_eq_some, Std.ExtTreeMap.contains_iff_mem] at found
  exact ⟨name, (Option.some.inj found.2).symm, held, found.1⟩

theorem mem_rootCandidates {name : String} : name ∈ grammar.rootCandidates ↔ grammar.IsRoot name := by
  simp only [rootCandidates, List.mem_filter, Std.ExtTreeMap.mem_keys, Bool.not_eq_true',
    List.contains_eq_mem, decide_eq_false_iff_not, IsRoot]

theorem rootCandidates_sorted :
    grammar.rootCandidates.Pairwise (fun name other => compare name other = .lt) :=
  Std.ExtTreeMap.ordered_keys.filter _

theorem startDefect_eq_none : grammar.startDefect? = none ↔ ∃! name, grammar.IsRoot name := by
  have sorted := grammar.rootCandidates_sorted
  simp only [← mem_rootCandidates, startDefect?]
  cases shape : grammar.rootCandidates with
  | nil => simp
  | cons first rest =>
      cases rest with
      | nil => simp
      | cons second rest =>
          rw [shape] at sorted
          have less := (List.pairwise_cons.mp sorted).1 second List.mem_cons_self
          refine iff_of_false nofun ?_
          rintro ⟨only, _, unique⟩
          have same := (unique first List.mem_cons_self).trans
            (unique second (List.mem_cons_of_mem _ List.mem_cons_self)).symm
          rw [same, Std.ReflOrd.compare_self] at less
          cases less

theorem startDefect_eq_some {defect : Defect} (found : grammar.startDefect? = some defect) :
    (defect = .noStartRule ∧ ∀ name, ¬ grammar.IsRoot name)
      ∨ (defect = .ambiguousStartRule grammar.rootCandidates
        ∧ ∃ name other, grammar.IsRoot name ∧ grammar.IsRoot other ∧ name ≠ other) := by
  have sorted := grammar.rootCandidates_sorted
  simp only [← mem_rootCandidates]
  rw [startDefect?] at found
  cases shape : grammar.rootCandidates with
  | nil =>
      rw [shape] at found
      exact .inl ⟨(Option.some.inj found).symm, fun _ => List.not_mem_nil⟩
  | cons first rest =>
      rw [shape] at found sorted
      cases rest with
      | nil => cases found
      | cons second rest =>
          have less := (List.pairwise_cons.mp sorted).1 second List.mem_cons_self
          refine .inr ⟨(Option.some.inj found).symm, first, second, List.mem_cons_self,
            List.mem_cons_of_mem _ List.mem_cons_self, ?_⟩
          rintro rfl
          rw [Std.ReflOrd.compare_self] at less
          cases less

/-- A grammar without a defect has a start rule. -/
theorem startRule?_isSome {strict : Bool} (sound : grammar.defect? strict = none) :
    ∃ start, grammar.startRule? = some start := by
  rw [defect?] at sound
  split at sound
  · cases sound
  · simp only [Option.orElse_eq_orElse, Option.orElse_eq_or, Option.or_eq_none_iff] at sound
    have roots : grammar.startDefect? = none := sound.2.2.2.2.1
    rw [startDefect?] at roots
    split at roots
    · cases roots
    · rename_i only found
      exact ⟨only, by rw [startRule?, found]⟩
    · cases roots

theorem isEmpty_eq_true : grammar.rules.isEmpty = true ↔ ¬ grammar.HasRules := by
  rw [Std.ExtTreeMap.isEmpty_iff, Std.ExtTreeMap.eq_empty_iff_forall_not_mem, HasRules, not_exists]

/-! ## The verdict -/

/-- The searches are made one after the other, so each one knows what the earlier ones have not
found. -/
theorem defect_verdict (grammar : Grammar) :
    match grammar.defect? false with
    | none => grammar.IsSound
    | some defect => grammar.FirstUnmet defect.variant ∧ grammar.Shows defect := by
  rw [defect?]
  by_cases empty : grammar.rules.isEmpty = true
  · rw [if_pos empty]
    exact ⟨isEmpty_eq_true.mp empty, trivial⟩
  have rules : grammar.HasRules := Classical.not_not.mp (mt isEmpty_eq_true.mpr empty)
  simp only [if_neg empty, Option.orElse_eq_orElse, Option.orElse_eq_or, Bool.false_eq_true, if_false,
    Option.or_none]
  -- At each search either a witness is taken along, or that its question is met.
  rcases (Option.eq_none_or_eq_some grammar.malformed?).symm with ⟨defect, first⟩ | first
  · obtain ⟨place, rule, node, lack, rfl, placed, inside, missed⟩ := malformed_eq_some first
    rw [first, Option.some_or]
    exact ⟨⟨rules, fun complete => complete place rule placed node inside lack missed⟩,
      rule, placed, node, inside, rfl, missed⟩
  have complete := malformed_eq_none.mp first
  rcases (Option.eq_none_or_eq_some grammar.undefinedSymbol?).symm with ⟨defect, second⟩ | second
  · obtain ⟨symbol, place, rule, rfl, unknown, used, named⟩ := undefinedSymbol_eq_some second
    obtain ⟨node, inside, kind, name⟩ := mem_symbolNames.mp named
    rw [first, Option.none_or, second, Option.some_or]
    exact ⟨⟨rules, complete, fun closed => unknown (closed place rule used node inside kind _ name)⟩,
      unknown, rule, used, node, inside, kind, name⟩
  have closed := undefinedSymbol_eq_none.mp second
  rcases (Option.eq_none_or_eq_some grammar.undefinedWord?).symm with ⟨defect, third⟩ | third
  · obtain ⟨name, rfl, held, unknown⟩ := undefinedWord_eq_some third
    rw [first, second, Option.none_or, Option.none_or, third, Option.some_or]
    exact ⟨⟨rules, complete, closed, fun known => unknown (known name held)⟩, held, unknown⟩
  have word := undefinedWord_eq_none.mp third
  rcases (Option.eq_none_or_eq_some grammar.undefinedSupertype?).symm with ⟨defect, fourth⟩ | fourth
  · obtain ⟨name, rfl, held, unknown⟩ := undefinedSupertype_eq_some fourth
    rw [first, second, third, Option.none_or, Option.none_or, Option.none_or, fourth, Option.some_or]
    exact ⟨⟨rules, complete, closed, word, fun known => unknown (known name held)⟩, held, unknown⟩
  have supertypes := undefinedSupertype_eq_none.mp fourth
  have consistent : grammar.IsConsistent := ⟨rules, complete, closed, word, supertypes⟩
  rw [first, second, third, fourth]
  simp only [Option.none_or]
  cases fifth : grammar.startDefect? with
  | none => exact ⟨consistent, startDefect_eq_none.mp fifth⟩
  | some defect =>
      rcases startDefect_eq_some fifth with ⟨rfl, none⟩ | ⟨rfl, several⟩
      · exact ⟨⟨consistent, none⟩, trivial⟩
      · exact ⟨⟨consistent, several⟩, rootCandidates_sorted.imp Unicode.utf8Bytes_lt,
          fun _ => mem_rootCandidates⟩

theorem FirstUnmet.unique {variant other : Defect.Variant} (first : grammar.FirstUnmet variant)
    (second : grammar.FirstUnmet other) : variant = other := by
  cases variant <;> cases other <;> grind [FirstUnmet, IsConsistent]

theorem FirstUnmet.not_sound {variant : Defect.Variant} (first : grammar.FirstUnmet variant) :
    ¬ grammar.IsSound := by
  rintro ⟨consistent, root⟩
  cases variant <;> grind [FirstUnmet, IsConsistent, ExistsUnique]

/-- A check that is not strict passes the sound grammars and no others. Of what is not met in the
others it reports the first, and what it names is there. -/
theorem check_verdict (grammar : Grammar) :
    ((grammar.check false).1 = .ok () ↔ grammar.IsSound)
    ∧ (∀ variant, (∃ defect, (grammar.check false).1 = .error defect ∧ defect.variant = variant) ↔
      grammar.FirstUnmet variant)
    ∧ ∀ defect, (grammar.check false).1 = .error defect → grammar.Shows defect := by
  have verdict := grammar.defect_verdict
  rw [check]
  cases found : grammar.defect? false with
  | none =>
      rw [found] at verdict
      refine ⟨iff_of_true rfl verdict, fun variant => iff_of_false ?_ ?_, nofun⟩
      · rintro ⟨defect, failed, _⟩
        cases failed
      · exact fun first => first.not_sound verdict
  | some defect =>
      rw [found] at verdict
      obtain ⟨first, shown⟩ := verdict
      refine ⟨iff_of_false nofun first.not_sound, fun variant => ⟨?_, ?_⟩, ?_⟩
      · rintro ⟨other, failed, rfl⟩
        rwa [← Except.error.inj failed]
      · exact fun other => ⟨defect, rfl, first.unique other⟩
      · rintro other failed
        rwa [← Except.error.inj failed]

/-- A rule with an empty sequence inside, and a reference to a rule that is not there. -/
def brokenGrammar : Grammar where
  name := "broken"
  rules := Std.ExtTreeMap.ofList
    [("start", Rule.choice [.symbol "missing", .many (.seq [])]), ("other", Rule.symbol "start")]

theorem check_verdict_broken :
    (brokenGrammar.check false).1 = .error (.malformed "start" .seq .members)
      ∧ brokenGrammar.Shows (.malformed "start" .seq .members) := by
  have first : brokenGrammar.defect? false = some (.malformed "start" .seq .members) := by
    decide +kernel
  have found : (brokenGrammar.check false).1 = .error (.malformed "start" .seq .members) := by
    rw [check, first]
  exact ⟨found, (check_verdict brokenGrammar).2.2 _ found⟩

end Grammar

end Treegram
