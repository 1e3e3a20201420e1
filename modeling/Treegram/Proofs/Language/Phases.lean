import Treegram.Proofs.Language.Uses

/-!
Numbering the symbols that are no tokens, and all phases together: a grammar is numbered exactly if
its tokens can be made and the table it needs has room, and that table is what it gets.
-/

namespace Treegram

namespace Numbering
variable {room : Nat} {numbering after : Numbering}

/-- There is room for some symbols behind the others. -/
def SymbolsFit (room : Nat) (base : Numbering) (added : List Symbol) : Prop :=
  (base.symbols.toList ++ added).length ≤ room

theorem SymbolsFit.shorter {base : Numbering} {added more : List Symbol}
    (fit : SymbolsFit room base (added ++ more)) : SymbolsFit room base added := by
  simp only [SymbolsFit, List.length_append] at fit ⊢
  omega

/-- A numbering that has some symbols more. -/
structure Added (room : Nat) (base : Numbering) (added : List Symbol) (numbering : Numbering) :
    Prop where
  symbols : numbering.symbols.toList = base.symbols.toList ++ added
  fit : SymbolsFit room base added

theorem added_nil {base : Numbering} (fit : base.symbols.toList.length ≤ room) :
    Added room base [] base :=
  ⟨(List.append_nil _).symm, by rwa [SymbolsFit, List.append_nil]⟩

theorem Added.fit_more {base : Numbering} {added : List Symbol} (grown : Added room base added numbering)
    (symbol : Symbol) : SymbolsFit room base (added ++ [symbol]) ↔ numbering.next < room := by
  rw [SymbolsFit, ← List.append_assoc, ← grown.symbols, List.length_append, List.length_singleton,
    Array.length_toList, Numbering.next]
  exact Nat.succ_le_iff

theorem Added.push {base : Numbering} {added : List Symbol} (grown : Added room base added numbering)
    {symbol : Symbol} (fits : numbering.next < room)
    (pushed : after.symbols = numbering.symbols.push symbol) :
    Added room base (added ++ [symbol]) after :=
  ⟨by rw [pushed, Array.toList_push, grown.symbols, List.append_assoc],
    (grown.fit_more symbol).mpr fits⟩

/-- Behind the tokens, the external tokens that some rules declare. -/
structure ExternalsAdded (room : Nat) (base : Numbering) (externals : List Rule)
    (found : List Nat × Numbering) : Prop where
  grown : Added room base (externals.filterMap externalSymbol?) found.2
  names : ∀ name, name ∈ found.2.ids ↔
    name ∈ base.ids ∨ name ∈ externals.filterMap Grammar.externalName?

theorem external_extends {base : Numbering} {earlier : List Rule} (external : Rule) :
    Extends (ExternalsAdded room base)
      (fun externals => SymbolsFit room base (externals.filterMap externalSymbol?)) earlier [external]
      (addExternal room · external) := by
  intro before added
  cases named : Grammar.externalName? external with
  | none =>
      have same : (earlier ++ [external]).filterMap externalSymbol? =
          earlier.filterMap externalSymbol? := by
        simp [externalSymbol?, named]
      simp only [addExternal_eq_ok, named, same, reduceCtorEq, false_and, exists_false, and_false,
        or_false, true_and, exists_eq, true_iff]
      refine ⟨added.grown.fit, ?_⟩
      rintro after rfl
      refine ⟨by rw [same]; exact added.grown, fun name => ?_⟩
      rw [added.names]
      simp [named]
  | some name =>
      have more : (earlier ++ [external]).filterMap externalSymbol? =
          earlier.filterMap externalSymbol? ++ [.external name external.isSymbol] := by
        simp [externalSymbol?, named]
      simp only [addExternal_eq_ok, named, reduceCtorEq, false_and, false_or, Option.some.injEq,
        exists_eq_left', more, added.grown.fit_more, exists_and_left, exists_eq, and_true, true_and]
      rintro after ⟨fits, rfl⟩
      refine ⟨by rw [more]; exact added.grown.push fits rfl, fun other => ?_⟩
      rw [Std.TreeMap.mem_insertIfNew, Std.LawfulEqCmp.compare_eq_iff_eq, added.names]
      simp only [List.filterMap_append, List.filterMap_cons_some named, List.filterMap_nil,
        List.mem_append, List.mem_singleton]
      grind

/-- The symbols of the rules that have none yet. -/
def newRules (isSupertype : String → Bool) (base : Numbering) (rules : List String) : List Symbol :=
  (rules.filter fun name => !base.ids.contains name).map (ruleSymbol isSupertype)

/-- Behind the external tokens, the rules that had no symbol. -/
structure RulesAdded (room : Nat) (isSupertype : String → Bool) (base : Numbering) (rules : List String)
    (numbering : Numbering) : Prop where
  grown : Added room base (newRules isSupertype base rules) numbering
  names : ∀ name, name ∈ numbering.ids ↔ name ∈ base.ids ∨ name ∈ rules

theorem addedRule_extends (isSupertype : String → Bool) {base : Numbering} {earlier : List String}
    {name : String} (apart : name ∉ earlier) :
    Extends (RulesAdded room isSupertype base)
      (fun names => SymbolsFit room base (newRules isSupertype base names)) earlier [name]
      (addRule room isSupertype · name) := by
  intro before added
  -- As the names of rules are distinct, none of the earlier ones can have given this one a number.
  have here : before.ids.contains name = base.ids.contains name := by
    rw [Bool.eq_iff_iff, Std.TreeMap.contains_iff_mem, Std.TreeMap.contains_iff_mem, added.names]
    exact or_iff_left apart
  cases known : base.ids.contains name with
  | true =>
      have same : newRules isSupertype base (earlier ++ [name]) = newRules isSupertype base earlier := by
        simp [newRules, known]
      simp only [addRule_eq_ok, here, known, same, true_and, Bool.true_eq_false, false_and, or_false,
        exists_eq, true_iff]
      refine ⟨added.grown.fit, ?_⟩
      rintro after rfl
      refine ⟨by rw [same]; exact added.grown, fun other => ?_⟩
      have member := Std.TreeMap.contains_iff_mem.mp known
      rw [added.names]
      grind
  | false =>
      have more : newRules isSupertype base (earlier ++ [name]) =
          newRules isSupertype base earlier ++ [ruleSymbol isSupertype name] := by
        simp [newRules, known]
      simp only [addRule_eq_ok, here, known, Bool.false_eq_true, false_and, false_or, true_and, more,
        added.grown.fit_more, exists_and_left, exists_eq, and_true]
      rintro after ⟨fits, rfl⟩
      refine ⟨by rw [more]; exact added.grown.push fits rfl, fun other => ?_⟩
      rw [Std.TreeMap.mem_insert, Std.LawfulEqCmp.compare_eq_iff_eq, added.names]
      grind

/-- The symbols of the aliases that nothing visible is called. -/
def newAliases (base : Numbering) (spellings : List (String × Bool)) : List Symbol :=
  (spellings.filter fun spelling => !base.symbols.toList.any (·.shows spelling.1 spelling.2)).map
    fun spelling => .aliased spelling.1 spelling.2

theorem aliased_shows (spelling : String × Bool) (other : String × Bool) :
    (Symbol.aliased other.1 other.2).shows spelling.1 spelling.2 = (other == spelling) := by
  rw [Symbol.shows, Symbol.aliased, Bool.true_and, Bool.and_comm]
  rfl

theorem addedAlias_extends {base : Numbering} {earlier : List (String × Bool)}
    {spelling : String × Bool} (apart : spelling ∉ earlier) :
    Extends (fun spellings => Added room base (newAliases base spellings))
      (fun spellings => SymbolsFit room base (newAliases base spellings)) earlier [spelling]
      (addAlias room · spelling) := by
  intro before grown
  -- An earlier alias is spelled otherwise.
  have here : before.symbols.toList.any (·.shows spelling.1 spelling.2) =
      base.symbols.toList.any (·.shows spelling.1 spelling.2) := by
    have others : (newAliases base earlier).any (·.shows spelling.1 spelling.2) = false := by
      simp only [newAliases, List.any_map, Function.comp_def, aliased_shows]
      rw [List.any_eq_false]
      intro other found same
      exact apart (beq_iff_eq.mp same ▸ (List.mem_filter.mp found).1)
    rw [grown.symbols, List.any_append, others, Bool.or_false]
  cases known : base.symbols.toList.any (·.shows spelling.1 spelling.2) with
  | true =>
      have same : newAliases base (earlier ++ [spelling]) = newAliases base earlier := by
        simp only [newAliases, List.filter_append, List.filter_cons, known]
        simp
      simp only [addAlias_eq_ok, here, known, same, true_and, Bool.true_eq_false, false_and, or_false,
        exists_eq, true_iff]
      refine ⟨grown.fit, ?_⟩
      rintro after rfl
      exact grown
  | false =>
      have more : newAliases base (earlier ++ [spelling]) =
          newAliases base earlier ++ [.aliased spelling.1 spelling.2] := by
        simp only [newAliases, List.filter_append, List.filter_cons, known]
        simp
      simp only [addAlias_eq_ok, here, known, Bool.false_eq_true, false_and, false_or, true_and, more,
        grown.fit_more, exists_and_left, exists_eq, and_true]
      rintro after ⟨fits, rfl⟩
      exact grown.push fits rfl

end Numbering

namespace Grammar
variable {room : Nat} (grammar : Grammar) (start : String)

theorem mem_numberedRules (entry : String × Rule) :
    entry ∈ grammar.numberedRules start ↔ entry ∈ grammar.rules.toList := by
  rw [numberedRules, List.partition_eq_filter_filter]
  by_cases first : entry.1 = start <;> simp [first]

/-- The names of the rules that are tokens, in the order in which rules are numbered. -/
def lexicalNames : List String :=
  ((grammar.numberedRules start).filter (·.2.lexicalBody?.isSome)).map (·.1)

theorem ruleNames_eq :
    (grammar.tokenUses start).filterMap TokenUse.ruleName? = grammar.lexicalNames start := by
  have extras : (grammar.extraRules.flatMap extraUses).filterMap TokenUse.ruleName? = [] := by
    rw [List.filterMap_flatMap, List.flatMap_eq_nil_iff]
    intro extra _
    rw [extraUses]
    split <;> simp [TokenUse.ruleName?]
  rw [tokenUses, List.filterMap_append, extras, List.append_nil, lexicalNames]
  induction grammar.numberedRules start with
  | nil => rfl
  | cons entry rest ih =>
      rw [List.flatMap_cons, List.filterMap_append, ih, ruleUses, List.filter_cons]
      cases entry.2.lexicalBody? <;> simp [TokenUse.ruleName?]

theorem mem_ruleNames (name : String) :
    name ∈ (grammar.tokenUses start).filterMap TokenUse.ruleName? ↔
      name ∈ (grammar.rules.toList.filter (·.2.lexicalBody?.isSome)).map (·.1) := by
  simp only [ruleNames_eq, lexicalNames, List.mem_map, List.mem_filter, mem_numberedRules]

open Treegram.Numbering

/-- The tokens of rules and extras are numbered exactly if all of them fit. -/
theorem tokens_extend (some : 0 < room) :
    ((∃ ruleTokens found, (grammar.numberedRules start).foldlM
          (fun numbering rule => addRuleTokens room rule.1 rule.2 numbering) {} = .ok ruleTokens
        ∧ grammar.extraRules.foldlM (addExtra room) ([], ruleTokens) = .ok found) ↔
      TokensFit room (grammar.tokenUses start))
    ∧ ∀ ruleTokens found, (grammar.numberedRules start).foldlM
          (fun numbering rule => addRuleTokens room rule.1 rule.2 numbering) {} = .ok ruleTokens →
        grammar.extraRules.foldlM (addExtra room) ([], ruleTokens) = .ok found →
        Tabled room (grammar.tokenUses start) found.2 := by
  have rules := extends_foldlM TokensFit.admitted TokensFit.shorter ruleUses
    (grammar.numberedRules start) [] (fun _ entry _ _ => rule_extends entry) {} (tabled_initial some)
  have extras (ruleTokens : Numbering)
      (tabled : Tabled room ((grammar.numberedRules start).flatMap ruleUses) ruleTokens) :=
    extends_foldlM (fun _ _ tabled => tabled.fit) TokensFit.shorter extraUses grammar.extraRules _
      (fun _ extra _ _ => extra_extends extra) ([], ruleTokens) tabled
  rw [List.nil_append] at rules
  constructor
  · constructor
    · rintro ⟨ruleTokens, found, first, second⟩
      exact (extras ruleTokens (rules.2 ruleTokens first)).1.mp ⟨found, second⟩
    · intro fit
      obtain ⟨ruleTokens, first⟩ := rules.1.mpr (fit.shorter _ _)
      obtain ⟨found, second⟩ := (extras ruleTokens (rules.2 ruleTokens first)).1.mpr fit
      exact ⟨ruleTokens, found, first, second⟩
  · intro ruleTokens found first second
    exact (extras ruleTokens (rules.2 ruleTokens first)).2 found second

/-- The symbols of the tokens and of the external tokens. -/
def tokenSymbols : List Symbol :=
  .stop :: (TokenUse.table (grammar.tokenUses start) ++ grammar.externalRules.filterMap externalSymbol?)

variable {grammar start}

theorem externals_extend {tokens : Numbering} (tabled : Tabled room (grammar.tokenUses start) tokens) :
    ((∃ found, grammar.externalRules.foldlM (addExternal room) ([], tokens) = .ok found) ↔
      (grammar.tokenSymbols start).length ≤ room)
    ∧ ∀ found, grammar.externalRules.foldlM (addExternal room) ([], tokens) = .ok found →
        found.2.symbols.toList = grammar.tokenSymbols start
          ∧ ∀ name, found.2.ids.contains name = grammar.takenNames.contains name := by
  have fits : tokens.symbols.toList.length ≤ room := by
    rw [tabled.symbols, List.length_cons]
    exact tabled.fit.2
  have externals := extends_each (fun _ _ added => added.grown.fit)
    (fun items more fit => SymbolsFit.shorter (List.filterMap_append ▸ fit)) grammar.externalRules
    (fun _ external _ _ => external_extends external) ([], tokens)
    ⟨added_nil fits, fun name => by simp⟩
  rw [List.nil_append] at externals
  have whole : tokens.symbols.toList ++ grammar.externalRules.filterMap externalSymbol? =
      grammar.tokenSymbols start := by
    rw [tabled.symbols, tokenSymbols, List.cons_append]
  constructor
  · rw [externals.1, ← whole]
    exact Iff.rfl
  · intro found done
    have added := externals.2 found done
    refine ⟨by rw [added.grown.symbols, whole], fun name => ?_⟩
    rw [Bool.eq_iff_iff, Std.TreeMap.contains_iff_mem, added.names, tabled.names, mem_ruleNames]
    simp [takenNames, externalNames]

theorem rules_extend {base : Numbering} (symbols : base.symbols.toList = grammar.tokenSymbols start)
    (names : ∀ name, base.ids.contains name = grammar.takenNames.contains name)
    (fits : (grammar.tokenSymbols start).length ≤ room)
    (distinct : ((grammar.numberedRules start).map (·.1)).Nodup) :
    ((∃ after, ((grammar.numberedRules start).map (·.1)).foldlM
        (addRule room grammar.supertypeNames.contains) base = .ok after) ↔
      (grammar.ownSymbols start).length ≤ room)
    ∧ ∀ after, ((grammar.numberedRules start).map (·.1)).foldlM
        (addRule room grammar.supertypeNames.contains) base = .ok after →
        after.symbols.toList = grammar.ownSymbols start := by
  have rules := extends_each (fun _ _ added => added.grown.fit)
    (fun items more fit => SymbolsFit.shorter (by simpa [newRules] using fit))
    ((grammar.numberedRules start).map (·.1))
    (fun before name after split => addedRule_extends grammar.supertypeNames.contains (by
      rw [split, List.nodup_append] at distinct
      exact fun found => distinct.2.2 name found name List.mem_cons_self rfl)) base
    ⟨added_nil (symbols ▸ fits), fun name => by simp⟩
  rw [List.nil_append] at rules
  have whole : base.symbols.toList ++ newRules grammar.supertypeNames.contains base
      ((grammar.numberedRules start).map (·.1)) = grammar.ownSymbols start := by
    rw [symbols, newRules, tokenSymbols, ownSymbols, ruleSymbols, List.cons_append, List.append_assoc]
    simp only [names]
  exact ⟨by rw [rules.1, ← whole]; exact Iff.rfl, fun after done => by
    rw [(rules.2 after done).grown.symbols, whole]⟩

theorem aliases_extend {base : Numbering} (symbols : base.symbols.toList = grammar.ownSymbols start)
    (fits : (grammar.ownSymbols start).length ≤ room) :
    ((∃ after, (Grammar.aliases (grammar.numberedRules start)).foldlM (addAlias room) base =
        .ok after) ↔
      (grammar.ownSymbols start ++ grammar.aliasSymbols start).length ≤ room)
    ∧ ∀ after, (Grammar.aliases (grammar.numberedRules start)).foldlM (addAlias room) base =
        .ok after →
        after.symbols.toList = grammar.ownSymbols start ++ grammar.aliasSymbols start := by
  have distinct : (Grammar.aliases (grammar.numberedRules start)).Nodup := nodup_eraseDups _
  have aliases := extends_each (fun _ _ added => added.fit)
    (fun items more fit => SymbolsFit.shorter (by simpa [newAliases] using fit))
    (Grammar.aliases (grammar.numberedRules start))
    (fun before name after split => addedAlias_extends (by
      rw [split, List.nodup_append] at distinct
      exact fun found => distinct.2.2 name found name List.mem_cons_self rfl)) base
    (added_nil (symbols ▸ fits))
  rw [List.nil_append] at aliases
  have whole : base.symbols.toList ++ newAliases base (Grammar.aliases (grammar.numberedRules start)) =
      grammar.ownSymbols start ++ grammar.aliasSymbols start := by
    rw [newAliases, aliasSymbols, symbols]
  exact ⟨by rw [aliases.1, ← whole]; exact Iff.rfl, fun after done => by
    rw [(aliases.2 after done).symbols, whole]⟩

/-- The numbering of a grammar leads to the table that the grammar needs. -/
theorem number_table (some : 0 < room) (distinct : ((grammar.numberedRules start).map (·.1)).Nodup)
    {numbered : NumberedGrammar} (done : grammar.number room start = .ok numbered) :
    TokensFit room (grammar.tokenUses start)
      ∧ (grammar.ownSymbols start ++ grammar.aliasSymbols start).length ≤ room
      ∧ numbered.numbering.symbols.toList =
          grammar.ownSymbols start ++ grammar.aliasSymbols start := by
  rw [number_eq_ok] at done
  obtain ⟨ruleTokens, references, tokens, externals, beforeRules, beforeAliases, after, first, second,
    third, fourth, fifth, rfl⟩ := done
  have tabled := (tokens_extend grammar start some).2 ruleTokens (references, tokens) first second
  have externalsFit := (externals_extend tabled).1.mp ⟨_, third⟩
  obtain ⟨symbols, names⟩ := (externals_extend tabled).2 _ third
  have rules := rules_extend symbols names externalsFit distinct
  have rulesFit := rules.1.mp ⟨_, fourth⟩
  have aliases := aliases_extend (rules.2 _ fourth) rulesFit
  exact ⟨tabled.fit, aliases.1.mp ⟨_, fifth⟩, aliases.2 _ fifth⟩

/-- A grammar is numbered exactly if all its tokens can be made and the table it needs has room. -/
theorem number_ok_iff (some : 0 < room) (distinct : ((grammar.numberedRules start).map (·.1)).Nodup) :
    (∃ numbered, grammar.number room start = .ok numbered) ↔
      (∀ use ∈ grammar.tokenUses start, use.IsUsable)
        ∧ (grammar.ownSymbols start ++ grammar.aliasSymbols start).length ≤ room := by
  constructor
  · rintro ⟨numbered, done⟩
    obtain ⟨fit, fits, _⟩ := number_table some distinct done
    exact ⟨fit.1, fits⟩
  · rintro ⟨usable, fits⟩
    -- What fits in the end has fitted before.
    have rulesFit : (grammar.ownSymbols start).length ≤ room := by
      rw [List.length_append] at fits
      omega
    have externalsFit : (grammar.tokenSymbols start).length ≤ room := by
      rw [ownSymbols, ← List.append_assoc, ← List.cons_append, List.length_append] at rulesFit
      rw [tokenSymbols]
      omega
    have tokensFit : TokensFit room (grammar.tokenUses start) := by
      rw [tokenSymbols, List.length_cons, List.length_append] at externalsFit
      exact ⟨usable, by omega⟩
    have phases := tokens_extend grammar start some
    obtain ⟨ruleTokens, ⟨references, tokens⟩, first, second⟩ := phases.1.mpr tokensFit
    have externals := externals_extend (phases.2 _ _ first second)
    obtain ⟨⟨ids, beforeRules⟩, third⟩ := externals.1.mpr externalsFit
    obtain ⟨symbols, names⟩ := externals.2 _ third
    have rules := rules_extend symbols names externalsFit distinct
    obtain ⟨beforeAliases, fourth⟩ := rules.1.mpr rulesFit
    obtain ⟨after, fifth⟩ := (aliases_extend (rules.2 _ fourth) rulesFit).1.mpr fits
    exact ⟨_, number_eq_ok.mpr ⟨ruleTokens, references, tokens, ids, beforeRules, beforeAliases, after,
      first, second, third, fourth, fifth, rfl⟩⟩

end Grammar

end Treegram
