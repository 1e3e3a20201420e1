import Treegram.Proofs.Grammar.Reachability
import Treegram.Proofs.Language.Refusals

/-!
Grammars without a start rule. A rule is a possible start rule if nothing refers to it, and a reference
that it has to itself counts. So where no start rule is found, every rule is referred to from elsewhere
or refers to itself, and it takes more than that to be sure of the first.
-/

namespace Treegram

/-- A reference to the name is somewhere in the rule. -/
def Rule.RefersTo (rule : Rule) (name : String) : Prop :=
  ∃ node, rule.Contains node ∧ node.kind = .symbol ∧ node.name = some name

namespace Grammar
variable {grammar : Grammar} {name : String}

/-- Something else than the rule of this name refers to it: another rule, an extra, an external token,
or one of the lists and names that a grammar declares. -/
inductive RefersElsewhere (grammar : Grammar) (name : String) : Prop where
  | rule {other : String} {rule : Rule} (found : grammar.rules[other]? = some rule)
      (apart : other ≠ name) (refers : rule.RefersTo name) : RefersElsewhere grammar name
  | extra {extra : Rule} (held : extra ∈ grammar.extraRules) (refers : extra.RefersTo name) :
      RefersElsewhere grammar name
  | external {external : Rule} (held : external ∈ grammar.externalRules)
      (refers : external.RefersTo name) : RefersElsewhere grammar name
  | inlined (held : name ∈ grammar.inlinedNames) : RefersElsewhere grammar name
  | supertype (held : name ∈ grammar.supertypeNames) : RefersElsewhere grammar name
  | word (held : grammar.word = some name) : RefersElsewhere grammar name

/-- The rule of this name refers to itself. -/
def RefersToItself (grammar : Grammar) (name : String) : Prop :=
  ∃ rule, grammar.rules[name]? = some rule ∧ rule.RefersTo name

theorem mem_values {rule : Rule} :
    rule ∈ grammar.rules.values ↔ ∃ place : String, grammar.rules[place]? = some rule := by
  simp only [values_eq, List.mem_map, Prod.exists, exists_eq_right,
    Std.ExtTreeMap.mem_toList_iff_getElem?_eq_some]

/-- The names are collected regardless of where the reference to them is. -/
theorem referenced_iff :
    name ∈ grammar.referencedNames ↔ grammar.RefersElsewhere name ∨ grammar.RefersToItself name := by
  have refers (rule : Rule) : name ∈ rule.symbolNames ↔ rule.RefersTo name := mem_symbolNames
  simp only [referencedNames, mem_ascending, List.mem_append, List.mem_flatMap, mem_values, refers,
    Option.mem_toList]
  constructor
  · rintro (((⟨rule, (⟨other, found⟩ | held) | held, refers⟩ | held) | held) | held)
    · -- Only here the one set of names hides who refers to whom.
      by_cases same : other = name
      · exact .inr ⟨rule, same ▸ found, refers⟩
      · exact .inl (.rule found same refers)
    · exact .inl (.extra held refers)
    · exact .inl (.external held refers)
    · exact .inl (.inlined held)
    · exact .inl (.supertype held)
    · exact .inl (.word held)
  · rintro ((⟨found, _, refers⟩ | ⟨held, refers⟩ | ⟨held, refers⟩ | held | held | held) |
      ⟨rule, found, refers⟩)
    · exact .inl (.inl (.inl ⟨_, .inl (.inl ⟨_, found⟩), refers⟩))
    · exact .inl (.inl (.inl ⟨_, .inl (.inr held), refers⟩))
    · exact .inl (.inl (.inl ⟨_, .inr held, refers⟩))
    · exact .inl (.inl (.inr held))
    · exact .inl (.inr held)
    · exact .inr held
    · exact .inl (.inl (.inl ⟨rule, .inl (.inl ⟨name, found⟩), refers⟩))

theorem isRoot_iff :
    grammar.IsRoot name ↔
      name ∈ grammar.rules ∧ ¬ grammar.RefersElsewhere name ∧ ¬ grammar.RefersToItself name := by
  rw [IsRoot, referenced_iff, not_or]

/-- Where no rule is a root, each one is referred to, be it by itself. -/
theorem no_root_iff :
    (∀ name, ¬ grammar.IsRoot name) ↔
      ∀ name ∈ grammar.rules, grammar.RefersElsewhere name ∨ grammar.RefersToItself name := by
  simp only [IsRoot, referenced_iff, not_and, Classical.not_not]

/-! ## The missing start rule -/

/-- What a check finds without being strict, a strict one finds as well. -/
theorem defect_of_lenient {defect : Defect} (found : grammar.defect? false = some defect) :
    grammar.defect? true = some defect := by
  rw [defect?] at found ⊢
  split at found
  · rwa [if_pos ‹_›]
  · rw [if_neg ‹_›]
    simp only [Option.orElse_eq_orElse, Option.orElse_eq_or, Bool.false_eq_true, if_false, if_true,
      Option.or_none, ← Option.or_assoc] at found ⊢
    rw [found, Option.some_or]

theorem lenient_noStartRule :
    grammar.defect? false = some .noStartRule ↔
      grammar.IsConsistent ∧ ∀ name, ¬ grammar.IsRoot name := by
  have verdict := grammar.defect_verdict
  constructor
  · intro found
    rw [found] at verdict
    exact verdict.1
  · intro first
    cases found : grammar.defect? false with
    | none =>
        rw [found] at verdict
        obtain ⟨start, root, _⟩ := verdict.root
        exact absurd root (first.2 start)
    | some defect =>
        rw [found] at verdict
        -- Only one question can be the first that is not met.
        have same : defect.variant = .noStartRule := verdict.1.unique first
        cases defect <;> first | rfl | cases same

theorem defect_noStartRule {strict : Bool} :
    grammar.defect? strict = some .noStartRule ↔
      grammar.IsConsistent ∧ ∀ name, ¬ grammar.IsRoot name := by
  rw [← lenient_noStartRule]
  cases strict with
  | false => rfl
  | true =>
      cases lenient : grammar.defect? false with
      | some defect => rw [defect_of_lenient lenient]
      | none =>
          -- A strict check has only one question more, which is about another defect.
          rw [defect_strict lenient, unreachableRule?]
          simp

theorem check_eq_error {strict : Bool} {defect : Defect} :
    (grammar.check strict).1 = .error defect ↔ grammar.defect? strict = some defect := by
  rw [check]
  cases grammar.defect? strict <;> simp

/-- What is known of the rules of a grammar from its being refused for want of a start rule, or not. -/
structure ReportsNoStart (grammar : Grammar) : Prop where
  candidates : ∀ name, name ∈ grammar.rootCandidates ↔
    name ∈ grammar.rules ∧ ¬ grammar.RefersElsewhere name ∧ ¬ grammar.RefersToItself name
  checked : ∀ strict, (grammar.check strict).1 = .error .noStartRule ↔
    grammar.IsConsistent
      ∧ ∀ name ∈ grammar.rules, grammar.RefersElsewhere name ∨ grammar.RefersToItself name
  loaded : ∀ options, (Language.load options grammar).1 = .error (.defect .noStartRule) ↔
    (grammar.check options.strict).1 = .error .noStartRule
  /-- The candidates are the rules that nothing else refers to just if the rules that refer to
  themselves are not among these. -/
  others : (∀ name, name ∈ grammar.rootCandidates ↔
      name ∈ grammar.rules ∧ ¬ grammar.RefersElsewhere name) ↔
    ∀ name, grammar.RefersToItself name → grammar.RefersElsewhere name
  /-- Of a grammar that is refused, every rule is referred to from elsewhere on the same condition. -/
  refused : ∀ strict, (grammar.check strict).1 = .error .noStartRule →
    ((∀ name ∈ grammar.rules, grammar.RefersElsewhere name) ↔
      ∀ name, grammar.RefersToItself name → grammar.RefersElsewhere name)

theorem RefersToItself.rule (itself : grammar.RefersToItself name) : name ∈ grammar.rules := by
  obtain ⟨rule, found, _⟩ := itself
  exact Std.ExtTreeMap.mem_iff_isSome_getElem?.mpr (Option.isSome_of_eq_some found)

/-- No start rule is found just if every rule is referred to from elsewhere or by itself. -/
theorem reportsNoStart (grammar : Grammar) : grammar.ReportsNoStart := by
  have candidates (name : String) : name ∈ grammar.rootCandidates ↔
      name ∈ grammar.rules ∧ ¬ grammar.RefersElsewhere name ∧ ¬ grammar.RefersToItself name := by
    rw [mem_rootCandidates, isRoot_iff]
  have checked (strict : Bool) : (grammar.check strict).1 = .error .noStartRule ↔
      grammar.IsConsistent
        ∧ ∀ name ∈ grammar.rules, grammar.RefersElsewhere name ∨ grammar.RefersToItself name := by
    rw [check_eq_error, defect_noStartRule, no_root_iff]
  refine ⟨candidates, checked, ?_, ⟨?_, ?_⟩, ?_⟩
  · intro options
    rw [Language.load_defect_iff, check_eq_error]
  · -- A rule that only refers to itself would have to be a candidate.
    intro exact name itself
    by_contra alone
    exact ((candidates name).mp ((exact name).mpr ⟨itself.rule, alone⟩)).2.2 itself
  · intro shared name
    rw [candidates]
    exact and_congr_right fun _ => and_iff_left_of_imp fun alone itself => alone (shared name itself)
  · intro strict failed
    refine ⟨fun all name itself => all name itself.rule, fun shared name rule => ?_⟩
    exact (((checked strict).mp failed).2 name rule).elim id (shared name)

/-- Two rules that refer to each other, one of them to itself as well. -/
def mutualGrammar : Grammar where
  name := "mutual"
  rules := Std.ExtTreeMap.ofList
    [("sum", Rule.seq [.symbol "item", .string "+", .symbol "sum"]),
      ("item", Rule.choice [.string "x", .seq [.string "(", .symbol "sum", .string ")"]])]

theorem reportsNoStart_mutual :
    (mutualGrammar.check false).1 = .error .noStartRule
      ∧ ∀ name ∈ mutualGrammar.rules, mutualGrammar.RefersElsewhere name := by
  have failed : (mutualGrammar.check false).1 = .error .noStartRule := by decide +kernel
  refine ⟨failed, ((reportsNoStart mutualGrammar).refused false failed).mpr fun name itself => ?_⟩
  have names : mutualGrammar.rules.keys = ["item", "sum"] := by decide +kernel
  have rule := Std.ExtTreeMap.mem_keys.mpr itself.rule
  rw [names, List.mem_pair] at rule
  rcases rule with rfl | rfl
  · exact @RefersElsewhere.rule _ _ "sum" _ rfl (by decide) (mem_symbolNames.mp (by decide +kernel))
  · exact @RefersElsewhere.rule _ _ "item" _ rfl (by decide) (mem_symbolNames.mp (by decide +kernel))

/-- A rule that refers to itself, and that nothing else refers to. -/
def nestedGrammar : Grammar where
  name := "nested"
  rules := Std.ExtTreeMap.ofList
    [("item", Rule.choice [.string "x", .seq [.string "(", .symbol "item", .string ")"]])]

/-- Its one rule is taken for one that is referred to, and it has no start rule. -/
theorem reportsNoStart_nested :
    (∀ name ∈ nestedGrammar.rules, ¬ nestedGrammar.RefersElsewhere name)
      ∧ nestedGrammar.rootCandidates = []
      ∧ (nestedGrammar.check false).1 = .error .noStartRule
      ∧ (Language.load {} nestedGrammar).1 = .error (.defect .noStartRule) := by
  refine ⟨fun name rule elsewhere => ?_, by decide +kernel, by decide +kernel,
    Language.load_defect_iff.mpr (by decide +kernel)⟩
  have only (name : String) (rule : name ∈ nestedGrammar.rules) : name = "item" := by
    have names : nestedGrammar.rules.keys = ["item"] := by decide +kernel
    rw [← Std.ExtTreeMap.mem_keys, names] at rule
    exact List.mem_singleton.mp rule
  cases elsewhere with
  | rule found apart _ =>
      have other := Std.ExtTreeMap.mem_iff_isSome_getElem?.mpr (Option.isSome_of_eq_some found)
      exact apart ((only _ other).trans (only name rule).symm)
  | extra held | external held | inlined held | supertype held => cases held
  | word held => cases held

end Grammar

end Treegram
