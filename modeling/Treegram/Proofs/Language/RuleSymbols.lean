import Treegram.Proofs.Language.Contents

/-!
The symbols of rules. A rule has a named symbol of its own, and no other rule has it; only a rule that
is no token and whose name an external token has taken is left without one. A language starts with
the symbol of its start rule, and finds it by its name.
-/

namespace Treegram

/-- A named symbol of a rule, whether the rule is a token or not. -/
def Symbol.isRule (symbol : Symbol) : Bool :=
  symbol.named && (symbol.kind == .terminal || symbol.kind == .nonterminal)

/-- A named symbol of the rule that has this name. -/
def Symbol.StandsFor (symbol : Symbol) (name : String) : Prop :=
  symbol.name = name ∧ symbol.named = true
    ∧ (symbol.kind = .terminal ∨ symbol.kind = .nonterminal)

theorem Symbol.standsFor_iff {symbol : Symbol} {name : String} :
    symbol.StandsFor name ↔ symbol.isRule = true ∧ symbol.name = name := by
  rw [StandsFor, isRule, Bool.and_eq_true, Bool.or_eq_true, beq_iff_eq, beq_iff_eq, and_comm]

theorem Symbol.StandsFor.shows {symbol : Symbol} {name : String} (stands : symbol.StandsFor name)
    (visible : symbol.visible = true) : symbol.shows name true = true := by
  simp [Symbol.shows, visible, stands.1, stands.2.1]

/-! ## The rules in the table -/

namespace TokenUse

/-- A rule that is a token is always new. -/
theorem introduced_ruleNames (earlier uses : List TokenUse) :
    (introduced earlier uses).filterMap ruleName? = uses.filterMap ruleName? := by
  induction uses generalizing earlier with
  | nil => rfl
  | cons use rest ih =>
      rw [introduced, List.filterMap_append, ih, List.filterMap_cons]
      cases use with
      | rule name body immediate => simp [isNew, key?, ruleName?]
      | inside place body immediate =>
          cases (inside place body immediate).isNew earlier <;> simp [ruleName?]

theorem symbols_rules (earlier uses : List TokenUse) :
    (symbols earlier uses).filter (·.isRule) =
      (uses.filterMap ruleName?).map (Symbol.ofRule · .terminal) := by
  induction uses generalizing earlier with
  | nil => rfl
  | cons use rest ih =>
      rw [symbols, List.filter_cons, ih, List.filterMap_cons]
      cases use with
      | rule name body immediate => rfl
      | inside place body immediate =>
          rw [symbol]
          cases body.stringText? <;> rfl

/-- The rules among the tokens, in the order of their use. -/
theorem table_rules (uses : List TokenUse) :
    (table uses).filter (·.isRule) = (uses.filterMap ruleName?).map (Symbol.ofRule · .terminal) := by
  rw [table, symbols_rules, introduced_ruleNames]

end TokenUse

namespace Grammar
variable {grammar : Grammar} {start : String}

/-- A rule that keeps its name: a token, or a rule that no external token is called like. -/
def KeepsName (grammar : Grammar) (name : String) : Prop :=
  ∃ rule, grammar.rules[name]? = some rule
    ∧ (rule.lexicalBody?.isSome = true ∨ name ∉ grammar.externalNames)

theorem mem_numberedNames {name : String} :
    name ∈ (grammar.numberedRules start).map (·.1) ↔ ∃ rule, grammar.rules[name]? = some rule := by
  simp only [List.mem_map, mem_numberedRules, Prod.exists, exists_and_right, exists_eq_right,
    Std.ExtTreeMap.mem_toList_iff_getElem?_eq_some]

theorem mem_lexicalNames {name : String} :
    name ∈ grammar.lexicalNames start ↔
      ∃ rule, grammar.rules[name]? = some rule ∧ rule.lexicalBody?.isSome = true := by
  simp only [lexicalNames, List.mem_map, List.mem_filter, mem_numberedRules, Prod.exists,
    Std.ExtTreeMap.mem_toList_iff_getElem?_eq_some]
  grind

theorem mem_takenNames (start : String) {name : String} :
    name ∈ grammar.takenNames ↔ name ∈ grammar.lexicalNames start ∨ name ∈ grammar.externalNames := by
  rw [takenNames, List.mem_append, ← mem_ruleNames grammar start, ruleNames_eq]

/-- The names of the rules that have symbols, in the order of these. -/
def keptNames (grammar : Grammar) (start : String) : List String :=
  grammar.lexicalNames start
    ++ ((grammar.numberedRules start).map (·.1)).filter fun name => !grammar.takenNames.contains name

theorem mem_keptNames (start : String) {name : String} :
    name ∈ grammar.keptNames start ↔ grammar.KeepsName name := by
  simp only [keptNames, List.mem_append, List.mem_filter, mem_numberedNames, mem_lexicalNames,
    Bool.not_eq_true', List.contains_eq_mem, decide_eq_false_iff_not, mem_takenNames start,
    KeepsName]
  grind

theorem keptNames_nodup (distinct : ((grammar.numberedRules start).map (·.1)).Nodup) :
    (grammar.keptNames start).Nodup := by
  refine List.nodup_append.mpr ⟨?_, distinct.filter _, ?_⟩
  · exact distinct.sublist ((List.filter_sublist).map _)
  · rintro name lexical _ other rfl
    have free := (List.mem_filter.mp other).2
    rw [Bool.not_eq_true', List.contains_eq_mem, decide_eq_false_iff_not] at free
    exact free ((mem_takenNames start).mpr (.inl lexical))

end Grammar

theorem externalName_of_symbol {external : Rule} (kind : external.kind = .symbol) :
    Grammar.externalName? external = external.name := by
  simp [Grammar.externalName?, Rule.symbolName?, Rule.isSymbol, Rule.stringText?, kind]

namespace Grammar.HasTable
variable {grammar : Grammar} {start : String} {numbered : NumberedGrammar}

/-- The symbols of rules are those of the tokens that are rules and those of the other rules. -/
theorem rules (table : grammar.HasTable start numbered) :
    (numbered.numbering.symbols.toList.filter (·.isRule)).map (·.name) = grammar.keptNames start := by
  have none {symbols : List Symbol} {kind : SymbolKind} (kinds : ∀ symbol ∈ symbols, symbol.kind = kind)
      (other : kind ≠ .terminal ∧ kind ≠ .nonterminal) : symbols.filter (·.isRule) = [] := by
    refine List.filter_eq_nil_iff.mpr fun symbol held => ?_
    simp [Symbol.isRule, kinds symbol held, other]
  have all : (grammar.ruleSymbols start).filter (·.isRule) = grammar.ruleSymbols start := by
    refine List.filter_eq_self.mpr fun symbol held => ?_
    obtain ⟨name, _, _, rfl⟩ := Grammar.mem_ruleSymbols.mp held
    rfl
  rw [table.symbols, List.filter_cons_of_neg (by decide), List.filter_append, List.filter_append,
    List.filter_append, none table.externalKind (by decide), none table.aliasedKind (by decide), all,
    List.nil_append, List.append_nil, TokenUse.table_rules, List.map_append, List.map_map,
    Grammar.ruleNames_eq, Grammar.keptNames, Grammar.ruleSymbols, List.map_map]
  exact congrArg₂ (· ++ ·) (List.map_id _) (List.map_id _)

/-- The symbol of a rule is shown if its name is visible, and is none of an alias. -/
theorem rule_visible (table : grammar.HasTable start numbered) {symbol : Symbol}
    (held : symbol ∈ numbered.numbering.symbols.toList) (rule : symbol.isRule = true) :
    symbol.visible = isVisibleName symbol.name ∧ symbol ∈ grammar.ownSymbols start := by
  rw [table.symbols] at held
  simp only [List.mem_cons, List.mem_append, Grammar.ownSymbols] at held ⊢
  rcases held with rfl | token | external | other | aliased
  · cases rule
  · have found : symbol ∈ (TokenUse.table (grammar.tokenUses start)).filter (·.isRule) :=
      List.mem_filter.mpr ⟨token, rule⟩
    rw [TokenUse.table_rules] at found
    obtain ⟨name, _, rfl⟩ := List.mem_map.mp found
    exact ⟨rfl, .inr (.inl token)⟩
  · simp [Symbol.isRule, table.externalKind symbol external] at rule
  · obtain ⟨name, _, _, rfl⟩ := Grammar.mem_ruleSymbols.mp other
    exact ⟨rfl, .inr (.inr (.inr other))⟩
  · simp [Symbol.isRule, table.aliasedKind symbol aliased] at rule

/-- What is shown under the name of a visible rule that is no external token is the rule's symbol. -/
theorem shown_rule (table : grammar.HasTable start numbered) {name : String}
    (undeclared : ∀ external ∈ grammar.externalRules, external.kind = .symbol →
      external.name ≠ some name) (visible : isVisibleName name = true) {own : Symbol}
    (held : own ∈ numbered.numbering.symbols.toList) (stands : own.StandsFor name) {symbol : Symbol}
    (there : symbol ∈ numbered.numbering.symbols.toList) (shown : symbol.shows name true = true) :
    symbol.StandsFor name := by
  obtain ⟨rule, named⟩ := Symbol.standsFor_iff.mp stands
  obtain ⟨seen, known⟩ := table.rule_visible held rule
  simp only [Symbol.shows, Bool.and_eq_true, beq_iff_eq] at shown
  obtain ⟨⟨seen', named'⟩, same⟩ := shown
  rw [table.symbols] at there
  simp only [List.mem_cons, List.mem_append] at there
  rcases there with rfl | token | external | other | aliased
  · cases seen'
  · exact ⟨same, named', .inl (table.terminalKind symbol token)⟩
  · obtain ⟨entry, declared, made⟩ := List.mem_filterMap.mp external
    obtain ⟨_, found, rfl⟩ := externalSymbol_eq_some.mp made
    obtain rfl := same
    -- A named external token is one that a reference declares.
    have kind : entry.kind = .symbol := beq_iff_eq.mp named'
    rw [externalName_of_symbol kind] at found
    exact absurd found (undeclared entry declared kind)
  · exact ⟨same, named', .inr (table.nonterminalKind symbol other)⟩
  · obtain ⟨spelling, free, rfl⟩ := List.mem_map.mp aliased
    have unseen := (List.mem_filter.mp free).2
    rw [Bool.not_eq_true', List.any_eq_false] at unseen
    refine absurd ?_ (unseen own known)
    simp only [Symbol.aliased] at same named'
    rw [same, named']
    exact stands.shows (by rw [seen, named, visible])

end Grammar.HasTable

/-! ## The numbers of rules -/

/-- A symbol is in one place only if the names of rules are distinct and it is one of a rule. -/
theorem place_unique {symbols : List Symbol}
    (distinct : ((symbols.filter (·.isRule)).map (·.name)).Nodup) {name : String} {id other : Nat}
    {symbol found : Symbol} (here : symbols[id]? = some symbol) (there : symbols[other]? = some found)
    (own : symbol.StandsFor name) (same : found.StandsFor name) : id = other := by
  rw [List.Nodup, List.pairwise_map, List.pairwise_filter, List.pairwise_iff_getElem] at distinct
  obtain ⟨inside, rfl⟩ := List.getElem?_eq_some_iff.mp here
  obtain ⟨inside', rfl⟩ := List.getElem?_eq_some_iff.mp there
  rw [Symbol.standsFor_iff] at own same
  rcases Nat.lt_trichotomy id other with less | equal | more
  · exact absurd (own.2.trans same.2.symm) (distinct id other inside inside' less own.1 same.1)
  · exact equal
  · exact absurd (same.2.trans own.2.symm) (distinct other id inside' inside more same.1 own.1)

/-- What is found in one place only is found there. -/
theorem findIdx_of_only {α : Type} {test : α → Bool} {items : List α} {index : Nat} {item : α}
    (here : items[index]? = some item) (passes : test item = true)
    (only : ∀ (other : Nat) (found : α), items[other]? = some found → test found = true →
      other = index) : items.findIdx? test = some index := by
  obtain ⟨inside, rfl⟩ := List.getElem?_eq_some_iff.mp here
  refine List.findIdx?_eq_some_iff_getElem.mpr ⟨inside, passes, fun other less found => ?_⟩
  exact Nat.ne_of_lt less (only other _ (List.getElem?_eq_getElem (Nat.lt_trans less inside)) found)

namespace Numbering
variable {room : Nat} {numbering after : Numbering}

/-- If a rule has a symbol, its name leads to one. -/
def RulesKept (numbering : Numbering) : Prop :=
  ∀ symbol ∈ numbering.symbols.toList, symbol.isRule = true →
    ∃ id found, numbering.ids[symbol.name]? = some id ∧ numbering.symbols[id]? = some found
      ∧ found.StandsFor symbol.name

theorem rulesKept_initial : RulesKept {} := by
  intro symbol held rule
  obtain rfl := List.mem_singleton.mp held
  cases rule

theorem getElem_push_of_some {symbols : Array Symbol} {id : Nat} {found : Symbol}
    (here : symbols[id]? = some found) (symbol : Symbol) : (symbols.push symbol)[id]? = some found := by
  obtain ⟨inside, rfl⟩ := Array.getElem?_eq_some_iff.mp here
  rw [Array.getElem?_push_lt inside]

/-- Another symbol may come with a name of its own, but must not take one that leads somewhere. -/
theorem RulesKept.push (kept : numbering.RulesKept) (symbol : Symbol) (other : symbol.isRule = false)
    (ids : ∀ (name : String) (id : Nat), numbering.ids[name]? = some id → after.ids[name]? = some id)
    (pushed : after.symbols = numbering.symbols.push symbol) : after.RulesKept := by
  rw [RulesKept, pushed, Array.toList_push, List.forall_mem_append, List.forall_mem_singleton]
  refine ⟨fun earlier held rule => ?_, fun rule => absurd rule (by simp [other])⟩
  obtain ⟨id, found, known, here, same⟩ := kept earlier held rule
  exact ⟨id, found, ids _ id known, getElem_push_of_some here symbol, same⟩

/-- The symbol of a rule takes the name over. -/
theorem RulesKept.pushRule (kept : numbering.RulesKept) (symbol : Symbol) (rule : symbol.isRule = true)
    (ids : after.ids = numbering.ids.insert symbol.name numbering.next)
    (pushed : after.symbols = numbering.symbols.push symbol) : after.RulesKept := by
  have own : ∃ id found, after.ids[symbol.name]? = some id ∧ after.symbols[id]? = some found
      ∧ found.StandsFor symbol.name :=
    ⟨numbering.next, symbol, by rw [ids, Std.TreeMap.getElem?_insert_self],
      by rw [pushed, Numbering.next, Array.getElem?_push_size], Symbol.standsFor_iff.mpr ⟨rule, rfl⟩⟩
  intro other held otherRule
  rw [pushed, Array.toList_push, List.mem_append, List.mem_singleton] at held
  by_cases same : other.name = symbol.name
  · rw [same]
    exact own
  · obtain ⟨id, found, known, here, stands⟩ :=
      kept other (held.resolve_right fun equal => same (equal ▸ rfl)) otherRule
    refine ⟨id, found, ?_, by rw [pushed, getElem_push_of_some here], stands⟩
    have apart : ¬ compare symbol.name other.name = .eq :=
      mt Std.LawfulEqCmp.compare_eq_iff_eq.mp (Ne.symm same)
    rw [ids, Std.TreeMap.getElem?_insert, if_neg apart, known]

theorem RulesKept.addInline (kept : numbering.RulesKept) {place : String} {token : Rule} {id : Nat}
    (done : numbering.addInline room place token = .ok (id, after)) : after.RulesKept := by
  rw [addInline_eq_ok] at done
  rcases done with ⟨text, _, literal⟩ | ⟨_, source, _, auxiliary⟩
  · rw [addLiteral_eq_ok] at literal
    rcases literal with ⟨_, rfl⟩ | ⟨_, _, _, rfl⟩
    · exact kept
    · exact kept.push (.literal text) rfl (fun _ _ known => known) rfl
  · rw [addAuxiliary_eq_ok] at auxiliary
    rcases auxiliary with ⟨_, rfl⟩ | ⟨_, _, _, _, _, rfl⟩
    · exact kept
    · exact kept.push (.auxiliary _) rfl (fun _ _ known => known) rfl

theorem RulesKept.addRuleTokens (kept : numbering.RulesKept) {name : String} {rule : Rule}
    (done : numbering.addRuleTokens room name rule = .ok after) : after.RulesKept := by
  cases lexical : rule.lexicalBody? with
  | some found =>
      rw [addRuleTokens_lexical lexical, addLexicalRule_eq_ok] at done
      obtain ⟨_, matcher, _, rfl⟩ := done
      exact kept.pushRule (.ofRule name .terminal) rfl rfl rfl
  | none =>
      rw [addRuleTokens_inline lexical] at done
      refine foldlM_keeps ?_ kept done
      intro token _ before after kept added
      rw [map_eq_ok] at added
      obtain ⟨⟨id, after⟩, added, rfl⟩ := added
      exact kept.addInline added

theorem RulesKept.addExtra {found after : List ExtraRef × Numbering} (kept : found.2.RulesKept)
    {extra : Rule} (done : Numbering.addExtra room found extra = .ok after) : after.2.RulesKept := by
  rw [addExtra_eq_ok] at done
  rcases done with ⟨_, rfl⟩ | ⟨_, id, after, added, rfl⟩
  · exact kept
  · exact kept.addInline added

/-- An external token leaves a name to the rule that has it. -/
theorem RulesKept.addExternal {found after : List Nat × Numbering} (kept : found.2.RulesKept)
    {external : Rule} (done : Numbering.addExternal room found external = .ok after) :
    after.2.RulesKept := by
  rw [addExternal_eq_ok] at done
  rcases done with ⟨_, rfl⟩ | ⟨_, name, _, rfl⟩
  · exact kept
  · refine kept.push (.external name external.isSymbol) ?_ (fun other id known => ?_) rfl
    · simp [Symbol.isRule, Symbol.external]
    · have held := Std.TreeMap.mem_iff_isSome_getElem?.mpr (Option.isSome_of_eq_some known)
      simp only [Std.TreeMap.getElem?_insertIfNew, Std.LawfulEqCmp.compare_eq_iff_eq]
      rw [if_neg fun new => new.2 (new.1 ▸ held), known]

theorem RulesKept.addRule {isSupertype : String → Bool} (kept : numbering.RulesKept) {name : String}
    (done : numbering.addRule room isSupertype name = .ok after) : after.RulesKept := by
  rw [addRule_eq_ok] at done
  rcases done with ⟨_, rfl⟩ | ⟨_, _, rfl⟩
  · exact kept
  · exact kept.pushRule (ruleSymbol isSupertype name) rfl rfl rfl

theorem RulesKept.addAlias {spelling : String × Bool} (kept : numbering.RulesKept)
    (done : numbering.addAlias room spelling = .ok after) : after.RulesKept := by
  rw [addAlias_eq_ok] at done
  rcases done with ⟨_, rfl⟩ | ⟨_, _, rfl⟩
  · exact kept
  · refine kept.push (.aliased spelling.1 spelling.2) ?_ (fun _ _ known => known) rfl
    simp [Symbol.isRule, Symbol.aliased]

end Numbering

namespace Grammar
variable {grammar : Grammar} {start : String} {room : Nat} {numbered : NumberedGrammar}

open Treegram.Numbering

theorem number_rulesKept (done : grammar.number room start = .ok numbered) :
    numbered.numbering.RulesKept := by
  rw [number_eq_ok] at done
  obtain ⟨ruleTokens, references, tokens, externals, beforeRules, beforeAliases, after, first, second,
    third, fourth, fifth, rfl⟩ := done
  have first : ruleTokens.RulesKept :=
    foldlM_keeps (fun _ _ _ _ kept done => kept.addRuleTokens done) rulesKept_initial first
  have second : tokens.RulesKept :=
    @foldlM_keeps _ _ _ (fun found : List ExtraRef × Numbering => found.2.RulesKept) _ _
      (fun _ _ _ _ kept done => RulesKept.addExtra kept done) _ _ first second
  have third : beforeRules.RulesKept :=
    @foldlM_keeps _ _ _ (fun found : List Nat × Numbering => found.2.RulesKept) _ _
      (fun _ _ _ _ kept done => RulesKept.addExternal kept done) _ _ second third
  have fourth := foldlM_keeps (fun _ _ _ _ kept done => RulesKept.addRule kept done) third fourth
  exact foldlM_keeps (fun _ _ _ _ kept done => RulesKept.addAlias kept done) fourth fifth

end Grammar

namespace Grammar
variable {grammar : Grammar} {start : String}

theorem isRoot_of_start (root : grammar.startRule? = some start) : grammar.IsRoot start := by
  rw [startRule?] at root
  split at root
  · rename_i only single
    rw [← mem_rootCandidates, single, Option.some.inj root]
    exact List.mem_singleton_self start
  · cases root

/-- A reference that declares an external token refers to it, so it is no root. -/
theorem IsRoot.not_declared (root : grammar.IsRoot start) {external : Rule}
    (held : external ∈ grammar.externalRules) (kind : external.kind = .symbol) :
    external.name ≠ some start := by
  intro named
  refine root.2 (mem_ascending.mpr ?_)
  simp only [List.mem_append, List.mem_flatMap]
  exact .inl (.inl (.inl ⟨external, .inr held,
    mem_symbolNames.mpr ⟨external, .self external, kind, named⟩⟩))

end Grammar

namespace Language
variable {options : LoadOptions} {grammar : Grammar} {language : Language}

/-- The number is one of a named symbol of the rule. -/
def NumbersRule (language : Language) (id : Nat) (name : String) : Prop :=
  ∃ symbol, language.symbol? id = some symbol ∧ symbol.StandsFor name

/-- The name of a visible rule that is no external token leads to the symbol of the rule, and no other
number is that of a symbol of the rule. -/
theorem load_ruleId (done : (load options grammar).1 = .ok language) {name : String} {id : Nat}
    (own : language.NumbersRule id name) (visible : isVisibleName name = true)
    (undeclared : ∀ external ∈ grammar.externalRules, external.kind = .symbol →
      external.name ≠ some name) :
    language.symbolId? name true = some id ∧ ∀ other, language.NumbersRule other name → other = id := by
  obtain ⟨_, start, numbered, root, _, rfl, table⟩ := load_contents done
  have distinct := Grammar.keptNames_nodup (Grammar.numberedRules_distinct root)
  rw [← table.rules] at distinct
  obtain ⟨symbol, here, stands⟩ := own
  change numbered.numbering.symbols[id]? = some symbol at here
  rw [← Array.getElem?_toList] at here
  have held := List.mem_of_getElem? here
  obtain ⟨rule, named⟩ := Symbol.standsFor_iff.mp stands
  obtain ⟨seen, _⟩ := table.rule_visible held rule
  constructor
  · refine findIdx_of_only here (stands.shows (by rw [seen, named, visible])) ?_
    intro other shown there shows
    exact place_unique distinct there here
      (table.shown_rule undeclared visible held stands (List.mem_of_getElem? there) shows) stands
  · rintro other ⟨found, there, same⟩
    change numbered.numbering.symbols[other]? = some found at there
    rw [← Array.getElem?_toList] at there
    exact place_unique distinct there here same stands

/-- A rule that keeps its name has one symbol of its own, and a rule that does not has none. A start
rule that keeps its name is the start symbol, and its name leads there if it is visible. -/
theorem load_ruleSymbols (done : (load options grammar).1 = .ok language) :
    (∀ name, grammar.KeepsName name → ∃! id, language.NumbersRule id name)
      ∧ (∀ id name, language.NumbersRule id name → grammar.KeepsName name)
      ∧ ∀ start, grammar.startRule? = some start → grammar.KeepsName start →
          language.NumbersRule language.startSymbol start
            ∧ (isVisibleName start = true →
              language.symbolId? start true = some language.startSymbol) := by
  obtain ⟨sound, start, numbered, root, made, rfl, table⟩ := load_contents done
  have distinct := Grammar.keptNames_nodup (Grammar.numberedRules_distinct root)
  rw [← table.rules] at distinct
  have numbers (id : Nat) (name : String) :
      (ofNumbered grammar start numbered options.version).NumbersRule id name ↔
        ∃ symbol, numbered.numbering.symbols.toList[id]? = some symbol ∧ symbol.StandsFor name := by
    simp only [Array.getElem?_toList]
    exact Iff.rfl
  have kept (name : String) : grammar.KeepsName name ↔
      ∃ symbol ∈ numbered.numbering.symbols.toList, symbol.StandsFor name := by
    rw [← Grammar.mem_keptNames start, ← table.rules]
    simp only [List.mem_map, List.mem_filter, Symbol.standsFor_iff, and_assoc]
  simp only [numbers]
  refine ⟨?_, ?_, ?_⟩
  · intro name keeps
    obtain ⟨symbol, held, stands⟩ := (kept name).mp keeps
    obtain ⟨id, here⟩ := List.mem_iff_getElem?.mp held
    refine ⟨id, ⟨symbol, here, stands⟩, ?_⟩
    rintro other ⟨found, there, same⟩
    exact place_unique distinct there here same stands
  · rintro id name ⟨symbol, here, stands⟩
    exact (kept name).mpr ⟨symbol, List.mem_of_getElem? here, stands⟩
  · -- The start symbol is what the start rule's name leads to, which is its own symbol if it has one.
    intro first same keeps
    obtain rfl := Option.some.inj (same.symm.trans root)
    obtain ⟨symbol, held, stands⟩ := (kept first).mp keeps
    obtain ⟨rule, rfl⟩ := Symbol.standsFor_iff.mp stands
    obtain ⟨id, found, known, here, own⟩ := Grammar.number_rulesKept made symbol held rule
    have begins : (ofNumbered grammar symbol.name numbered options.version).startSymbol = id := by
      rw [ofNumbered]
      simp only [known, Option.getD_some]
    rw [← Array.getElem?_toList] at here
    rw [begins]
    refine ⟨⟨found, here, own⟩, fun visible => ?_⟩
    have undeclared : ∀ external ∈ grammar.externalRules, external.kind = .symbol →
        external.name ≠ some symbol.name := fun _ declared kind =>
      (Grammar.isRoot_of_start root).not_declared declared kind
    obtain ⟨ownRule, named⟩ := Symbol.standsFor_iff.mp own
    obtain ⟨seen, _⟩ := table.rule_visible (List.mem_of_getElem? here) ownRule
    refine findIdx_of_only here (own.shows (by rw [seen, named, visible])) ?_
    intro other shown there shows
    exact place_unique distinct there here
      (table.shown_rule undeclared visible held stands (List.mem_of_getElem? there) shows) own

theorem load_ruleSymbols_sum :
    ∃ language, (load {} sumGrammar).1 = .ok language ∧ (∃! id, language.NumbersRule id "digit")
      ∧ language.NumbersRule language.startSymbol "sum"
      ∧ language.symbolId? "sum" true = some language.startSymbol := by
  obtain ⟨language, done⟩ := sumGrammar_loads
  have root : sumGrammar.startRule? = some "sum" := by decide +kernel
  have keeps (name : String) (known : sumGrammar.rules[name]?.isSome = true)
      (free : name ∉ sumGrammar.externalNames) : sumGrammar.KeepsName name := by
    obtain ⟨rule, found⟩ := Option.isSome_iff_exists.mp known
    exact ⟨rule, found, .inr free⟩
  obtain ⟨own, _, start⟩ := load_ruleSymbols done
  obtain ⟨first, found⟩ := start "sum" root (keeps "sum" (by decide +kernel) (by decide +kernel))
  exact ⟨language, done, own "digit" (keeps "digit" (by decide +kernel) (by decide +kernel)), first,
    found (by decide)⟩

/-- An external token that is called like a rule, but does not refer to it. -/
def takenGrammar : Grammar where
  name := "taken"
  rules := Std.ExtTreeMap.ofList [("item", Rule.seq [.string "x", .string "y"])]
  externals := some [.string "item"]

/-- The external token has taken the name of the rule, which is left without a symbol. -/
theorem load_ruleSymbols_taken :
    ∃ language, (load {} takenGrammar).1 = .ok language
      ∧ takenGrammar.startRule? = some "item"
      ∧ (∀ external ∈ takenGrammar.externalRules, external.kind ≠ .symbol)
      ∧ (∀ id, ¬ language.NumbersRule id "item")
      ∧ language.symbol? language.startSymbol = some (.external "item" false)
      ∧ language.symbolId? "item" true = none := by
  obtain ⟨language, done, none, start, unknown⟩ :
      ∃ language, (load {} takenGrammar).1 = .ok language
        ∧ (∀ symbol ∈ language.symbols.toList, symbol.isRule = true → symbol.name ≠ "item")
        ∧ language.symbol? language.startSymbol = some (.external "item" false)
        ∧ language.symbolId? "item" true = none := by decide +kernel
  refine ⟨language, done, by decide +kernel, by decide +kernel, ?_, start, unknown⟩
  rintro id ⟨symbol, here, stands⟩
  obtain ⟨rule, named⟩ := Symbol.standsFor_iff.mp stands
  have held : symbol ∈ language.symbols.toList :=
    Array.mem_toList_iff.mpr (Array.mem_of_getElem? here)
  exact none symbol held rule named

end Language

end Treegram
