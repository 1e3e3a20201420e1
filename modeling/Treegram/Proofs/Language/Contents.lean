import Treegram.Proofs.Grammar.Verdict
import Treegram.Proofs.Language.Acceptance

/-!
What stands in each block of a language's symbols: the tokens that are used, the external tokens that
are declared, the rules that have no symbol otherwise, and the aliases that nothing visible is called.
-/

namespace Treegram

/-! ## The kind of each part of the table -/

namespace TokenUse

theorem symbol_kind (earlier : List TokenUse) (use : TokenUse) :
    (use.symbol earlier).kind = .terminal := by
  cases use with
  | rule name body immediate => rfl
  | inside place body immediate =>
      rw [symbol]
      cases body.stringText? <;> rfl

theorem symbols_kind (earlier uses : List TokenUse) :
    ∀ symbol ∈ symbols earlier uses, symbol.kind = .terminal := by
  induction uses generalizing earlier with
  | nil => nofun
  | cons use rest ih =>
      rw [symbols, List.forall_mem_cons]
      exact ⟨use.symbol_kind earlier, ih (earlier ++ [use])⟩

theorem table_kind (uses : List TokenUse) : ∀ symbol ∈ table uses, symbol.kind = .terminal :=
  symbols_kind [] _

end TokenUse

theorem externalSymbol_eq_some {external : Rule} {symbol : Symbol} :
    externalSymbol? external = some symbol ↔
      ∃ name, Grammar.externalName? external = some name
        ∧ Symbol.external name external.isSymbol = symbol :=
  Option.map_eq_some_iff

theorem externalSymbols_kind (externals : List Rule) :
    ∀ symbol ∈ externals.filterMap externalSymbol?, symbol.kind = .external := by
  intro symbol held
  obtain ⟨external, _, made⟩ := List.mem_filterMap.mp held
  obtain ⟨name, _, rfl⟩ := externalSymbol_eq_some.mp made
  rfl

namespace Grammar
variable {grammar : Grammar} {start : String}

theorem mem_ruleSymbols {symbol : Symbol} :
    symbol ∈ grammar.ruleSymbols start ↔
      ∃ name ∈ (grammar.numberedRules start).map (·.1), name ∉ grammar.takenNames
        ∧ Numbering.ruleSymbol grammar.supertypeNames.contains name = symbol := by
  simp only [ruleSymbols, List.mem_map, List.mem_filter, Bool.not_eq_true', List.contains_eq_mem,
    decide_eq_false_iff_not, and_assoc]

theorem ruleSymbols_kind (grammar : Grammar) (start : String) :
    ∀ symbol ∈ grammar.ruleSymbols start, symbol.kind = .nonterminal := by
  intro symbol held
  obtain ⟨name, _, _, rfl⟩ := mem_ruleSymbols.mp held
  rfl

theorem aliasSymbols_kind (grammar : Grammar) (start : String) :
    ∀ symbol ∈ grammar.aliasSymbols start, symbol.kind = .aliased := by
  intro symbol held
  obtain ⟨spelling, _, rfl⟩ := List.mem_map.mp held
  rfl

/-! ## The blocks of a numbering -/

/-- The symbols of one kind are found again among the symbols of all kinds. -/
theorem filter_parts {terminals externals nonterminals aliases : List Symbol}
    (terminalKind : ∀ symbol ∈ terminals, symbol.kind = .terminal)
    (externalKind : ∀ symbol ∈ externals, symbol.kind = .external)
    (nonterminalKind : ∀ symbol ∈ nonterminals, symbol.kind = .nonterminal)
    (aliasedKind : ∀ symbol ∈ aliases, symbol.kind = .aliased) (kind : SymbolKind) :
    (Symbol.stop :: (terminals ++ (externals ++ (nonterminals ++ aliases)))).filter (·.kind = kind) =
      match kind with
      | .stop => [.stop]
      | .terminal => terminals
      | .external => externals
      | .nonterminal => nonterminals
      | .aliased => aliases := by
  simp only [List.filter_cons, List.filter_append, Language.filter_kind terminalKind,
    Language.filter_kind externalKind, Language.filter_kind nonterminalKind,
    Language.filter_kind aliasedKind, Symbol.stop]
  cases kind <;> simp

/-- The numbering has the table that the grammar needs. -/
abbrev HasTable (grammar : Grammar) (start : String) (numbered : NumberedGrammar) : Prop :=
  numbered.Blocks ((grammar.numberedRules start).map (·.1))
    (TokenUse.table (grammar.tokenUses start)) (grammar.externalRules.filterMap externalSymbol?)
    (grammar.ruleSymbols start) (grammar.aliasSymbols start)

/-- The blocks of a numbering are the parts of the table that the grammar needs. -/
theorem number_contents {room : Nat} (some : 0 < room)
    (distinct : ((grammar.numberedRules start).map (·.1)).Nodup) {numbered : NumberedGrammar}
    (done : grammar.number room start = .ok numbered) : grammar.HasTable start numbered := by
  obtain ⟨terminals, externals, nonterminals, aliases, blocks⟩ := number_blocks done
  obtain ⟨_, _, table⟩ := number_table some distinct done
  -- Both descriptions of the table have the same symbols of each kind.
  have counted := filter_parts blocks.terminalKind blocks.externalKind blocks.nonterminalKind
    blocks.aliasedKind
  have needed := filter_parts (TokenUse.table_kind (grammar.tokenUses start))
    (externalSymbols_kind grammar.externalRules) (grammar.ruleSymbols_kind start)
    (grammar.aliasSymbols_kind start)
  have same : numbered.numbering.symbols.toList = .stop :: (TokenUse.table (grammar.tokenUses start)
      ++ (grammar.externalRules.filterMap externalSymbol?
      ++ (grammar.ruleSymbols start ++ grammar.aliasSymbols start))) := by
    rw [table, ownSymbols, List.cons_append, List.append_assoc, List.append_assoc]
  rw [← blocks.symbols, same] at counted
  obtain rfl := (counted .terminal).symm.trans (needed .terminal)
  obtain rfl := (counted .external).symm.trans (needed .external)
  obtain rfl := (counted .nonterminal).symm.trans (needed .nonterminal)
  obtain rfl := (counted .aliased).symm.trans (needed .aliased)
  exact blocks

/-- A grammar without a defect is sound, however strict the check was. -/
theorem isSound_of_defect {strict : Bool} (none : grammar.defect? strict = none) :
    grammar.IsSound := by
  have lenient : grammar.defect? false = Option.none := by
    rw [defect?] at none ⊢
    split at none
    · cases none
    · rename_i rules
      rw [if_neg rules]
      simp_all [Option.orElse_eq_orElse, Option.orElse_eq_or, Option.or_eq_none_iff]
  have verdict := grammar.defect_verdict
  rwa [lenient] at verdict

end Grammar

namespace Language

/-- A language that loads is made from the numbering of a sound grammar, block by block. -/
theorem load_contents {options : LoadOptions} {grammar : Grammar} {language : Language}
    (done : (load options grammar).1 = .ok language) :
    grammar.IsSound ∧ ∃ start numbered, grammar.startRule? = some start
      ∧ grammar.number symbolRoom start = .ok numbered
      ∧ language = ofNumbered grammar start numbered options.version
      ∧ grammar.HasTable start numbered := by
  rw [load, loadWithin_eq_ok] at done
  obtain ⟨sound, start, numbered, root, made, rfl⟩ := done
  exact ⟨Grammar.isSound_of_defect sound, start, numbered, root, made, rfl,
    Grammar.number_contents (by decide) (Grammar.numberedRules_distinct root) made⟩

end Language

end Treegram
