import Treegram.Proofs.Language.Contents
import Treegram.Proofs.Language.RuleSymbols

/-!
The names that aliases give. Each of them leads to a symbol, and those that nothing else visible is
called have a symbol of their own, which nothing else visible is called like.
-/

namespace Treegram

namespace Grammar
variable {grammar : Grammar} {start : String}

/-- Some node of a rule is an alias with this value; one that does not say so makes no named node. -/
def GivesAlias (grammar : Grammar) (value : String) (named : Bool) : Prop :=
  ∃ (name : String) (rule node : Rule), grammar.rules[name]? = some rule ∧ rule.Contains node
    ∧ node.kind = .aliased ∧ node.text? = some value ∧ node.named.getD false = named

theorem mem_ruleAliases {rule : Rule} {spelling : String × Bool} :
    spelling ∈ rule.aliases ↔ ∃ node, rule.Contains node ∧ node.kind = .aliased
      ∧ node.text? = some spelling.1 ∧ node.named.getD false = spelling.2 := by
  obtain ⟨value, named⟩ := spelling
  simp only [Rule.aliases, List.mem_filterMap, Rule.mem_walk_iff, Option.ite_none_right_eq_some,
    Option.map_eq_some_iff, Prod.mk.injEq]
  grind

theorem mem_aliases {spelling : String × Bool} :
    spelling ∈ aliases (grammar.numberedRules start) ↔ grammar.GivesAlias spelling.1 spelling.2 := by
  simp only [aliases, List.mem_eraseDups, List.mem_flatMap, mem_numberedRules, mem_ruleAliases,
    Prod.exists, Std.ExtTreeMap.mem_toList_iff_getElem?_eq_some, GivesAlias, exists_and_left]

theorem ownSymbols_kind (grammar : Grammar) (start : String) :
    ∀ symbol ∈ grammar.ownSymbols start, symbol.kind ≠ .aliased := by
  intro symbol held
  simp only [ownSymbols, List.mem_cons, List.mem_append] at held
  rcases held with rfl | token | external | rule
  · decide
  · simp [TokenUse.table_kind _ symbol token]
  · simp [externalSymbols_kind _ symbol external]
  · simp [grammar.ruleSymbols_kind start symbol rule]

/-- The aliases that no other visible symbol is called. -/
def freeAliases (grammar : Grammar) (start : String) : List (String × Bool) :=
  (aliases (grammar.numberedRules start)).filter fun spelling =>
    !(grammar.ownSymbols start).any (·.shows spelling.1 spelling.2)

theorem mem_freeAliases {spelling : String × Bool} :
    spelling ∈ grammar.freeAliases start ↔ grammar.GivesAlias spelling.1 spelling.2
      ∧ ∀ symbol ∈ grammar.ownSymbols start, symbol.shows spelling.1 spelling.2 = false := by
  simp only [freeAliases, List.mem_filter, mem_aliases, Bool.not_eq_true', List.any_eq_false,
    Bool.not_eq_true]

/-- A symbol of an alias stands behind those that are none, in the place of the alias. -/
theorem alias_place {id : Nat} {symbol : Symbol}
    (here : (grammar.ownSymbols start ++ grammar.aliasSymbols start)[id]? = some symbol)
    (kind : symbol.kind = .aliased) :
    ∃ index spelling, id = (grammar.ownSymbols start).length + index
      ∧ (grammar.freeAliases start)[index]? = some spelling
      ∧ symbol = .aliased spelling.1 spelling.2 := by
  rw [List.getElem?_append] at here
  split at here
  · exact absurd kind (grammar.ownSymbols_kind start symbol (List.mem_of_getElem? here))
  · rename_i behind
    rw [aliasSymbols, ← freeAliases, List.getElem?_map, Option.map_eq_some_iff] at here
    obtain ⟨spelling, found, rfl⟩ := here
    exact ⟨id - (grammar.ownSymbols start).length, spelling, by omega, found, rfl⟩

/-- What is shown under the name of a free alias is the symbol of an alias. -/
theorem kind_of_shown {spelling : String × Bool} (free : spelling ∈ grammar.freeAliases start)
    {symbol : Symbol} (held : symbol ∈ grammar.ownSymbols start ++ grammar.aliasSymbols start)
    (shown : symbol.shows spelling.1 spelling.2 = true) : symbol.kind = .aliased := by
  rcases List.mem_append.mp held with own | fresh
  · exact absurd shown (by simp [(mem_freeAliases.mp free).2 symbol own])
  · exact grammar.aliasSymbols_kind start symbol fresh

/-- Nothing else is shown under the name of a free alias. -/
theorem alias_only {spelling : String × Bool} {index id : Nat} {symbol : Symbol}
    (free : (grammar.freeAliases start)[index]? = some spelling)
    (here : (grammar.ownSymbols start ++ grammar.aliasSymbols start)[id]? = some symbol)
    (shown : symbol.shows spelling.1 spelling.2 = true) :
    id = (grammar.ownSymbols start).length + index := by
  have kind := kind_of_shown (List.mem_of_getElem? free) (List.mem_of_getElem? here) shown
  obtain ⟨place, other, rfl, found, rfl⟩ := alias_place here kind
  rw [Numbering.aliased_shows, beq_iff_eq] at shown
  subst shown
  have distinct : (grammar.freeAliases start).Nodup := (nodup_eraseDups _).filter _
  have inside := (List.getElem?_eq_some_iff.mp found).1
  rw [(List.getElem?_inj inside distinct).mp (found.trans free.symm)]

end Grammar

namespace Language
variable {options : LoadOptions} {grammar : Grammar} {language : Language}

theorem symbolId_isSome {name : String} {named : Bool} :
    (∃ id, language.symbolId? name named = some id) ↔
      ∃ symbol ∈ language.symbols.toList, symbol.shows name named = true := by
  rw [symbolId?, ← Option.isSome_iff_exists, List.findIdx?_isSome, List.any_eq_true]

theorem symbolId_lt {name : String} {named : Bool} {id : Nat}
    (found : language.symbolId? name named = some id) : id < language.symbolCount := by
  obtain ⟨inside, _⟩ := List.findIdx?_eq_some_iff_getElem.mp found
  rwa [Array.length_toList] at inside

/-- Every alias leads to a symbol. The symbol of an alias is visible, comes from an alias in a rule, and
is the only visible one of its name, so that its name leads to it. -/
theorem load_aliases (done : (load options grammar).1 = .ok language) :
    (∀ value named, grammar.GivesAlias value named →
        ∃ id < 65536, language.symbolId? value named = some id)
      ∧ ∀ id symbol, language.symbol? id = some symbol → symbol.kind = .aliased →
          symbol.visible = true ∧ grammar.GivesAlias symbol.name symbol.named
            ∧ (∀ other found, language.symbol? other = some found → found.visible = true →
              found.name = symbol.name → found.named = symbol.named → other = id)
            ∧ language.symbolId? symbol.name symbol.named = some id := by
  obtain ⟨symbols, room⟩ := symbols_eq done
  rw [Grammar.symbolTable] at symbols
  generalize grammar.startRule?.getD "" = start at symbols
  have places (id : Nat) : language.symbol? id =
      (grammar.ownSymbols start ++ grammar.aliasSymbols start)[id]? := by
    rw [← symbols, Array.getElem?_toList]
    rfl
  constructor
  · intro value named given
    obtain ⟨id, found⟩ : ∃ id, language.symbolId? value named = some id := by
      rw [symbolId_isSome, symbols]
      -- Either something else is shown under this name, or the alias has a symbol of its own.
      by_cases taken : ∃ symbol ∈ grammar.ownSymbols start, symbol.shows value named = true
      · obtain ⟨symbol, own, shown⟩ := taken
        exact ⟨symbol, List.mem_append_left _ own, shown⟩
      · have free : (value, named) ∈ grammar.freeAliases start :=
          Grammar.mem_freeAliases.mpr ⟨given, fun symbol own =>
            Bool.eq_false_iff.mpr fun shown => taken ⟨symbol, own, shown⟩⟩
        exact ⟨.aliased value named, List.mem_append_right _ (List.mem_map.mpr ⟨_, free, rfl⟩),
          by simp [Symbol.shows, Symbol.aliased]⟩
    exact ⟨id, Nat.lt_of_lt_of_le (symbolId_lt found) room, found⟩
  · intro id symbol here kind
    rw [places] at here
    obtain ⟨index, spelling, rfl, free, rfl⟩ := Grammar.alias_place here kind
    have only (other : Nat) (found : Symbol) (there : language.symbol? other = some found)
        (shown : found.shows spelling.1 spelling.2 = true) :
        other = (grammar.ownSymbols start).length + index :=
      Grammar.alias_only free (places other ▸ there) shown
    refine ⟨rfl, (Grammar.mem_freeAliases.mp (List.mem_of_getElem? free)).1, ?_, ?_⟩
    · intro other found there visible name named
      refine only other found there ?_
      simp [Symbol.shows, visible, name, named, Symbol.aliased]
    · refine findIdx_of_only (symbols ▸ here) (by simp [Symbol.shows, Symbol.aliased]) ?_
      intro other found there shown
      exact only other found ((places other).trans (symbols ▸ there)) shown

/-- Aliases called like a literal, like a hidden rule, and like nothing else. -/
def renamingGrammar : Grammar where
  name := "renaming"
  rules := Std.ExtTreeMap.ofList
    [("program", Rule.seq
        [.string "+", .aliased (.symbol "_item") "+" false, .aliased (.symbol "_item") "_item" true,
          .many (.aliased (.symbol "_item") "unit" true)]),
      ("_item", Rule.string "x")]

theorem load_aliases_renaming :
    ∃ language, (load {} renamingGrammar).1 = .ok language
      ∧ (∃ id < 65536, language.symbolId? "+" false = some id)
      ∧ language.symbol? 2 = some (.ofRule "_item" .terminal)
      ∧ language.symbol? 4 = some (.aliased "_item" true)
      ∧ language.symbolId? "_item" true = some 4 ∧ language.symbolCount = 6 := by
  obtain ⟨language, done, hidden, renamed, count⟩ :
      ∃ language, (load {} renamingGrammar).1 = .ok language
        ∧ language.symbol? 2 = some (.ofRule "_item" .terminal)
        ∧ language.symbol? 4 = some (.aliased "_item" true) ∧ language.symbolCount = 6 := by
    decide +kernel
  have given : renamingGrammar.GivesAlias "+" false :=
    ⟨"program", _, .aliased (.symbol "_item") "+" false, rfl,
      .member (List.mem_cons_of_mem _ List.mem_cons_self) (.self _), rfl, rfl, rfl⟩
  obtain ⟨leads, own⟩ := load_aliases done
  exact ⟨language, done, leads "+" false given, hidden, renamed, (own 4 _ renamed rfl).2.2.2, count⟩

end Language

end Treegram
