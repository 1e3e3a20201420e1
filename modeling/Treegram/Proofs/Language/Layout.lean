import Treegram.Proofs.Language.Steps
import Treegram.Proofs.Unicode.ByteOrder
import Treegram.Rule.Combinators

/-!
The layout of a language's symbols: the end of the input, the tokens, the external tokens,
the rules that are no tokens, and the aliases, each kind in one block. Every phase of a
numbering only puts symbols of its own kind behind the others.
-/

namespace Treegram

namespace Numbering

/-- A numbering has grown out of an earlier one by some symbols of one kind. -/
structure Grown (kind : SymbolKind) (before : Numbering) (added : List Symbol) (after : Numbering) :
    Prop where
  symbols : after.symbols.toList = before.symbols.toList ++ added
  kinds : ∀ symbol ∈ added, symbol.kind = kind

theorem Grown.refl (kind : SymbolKind) (numbering : Numbering) : Grown kind numbering [] numbering :=
  ⟨(List.append_nil _).symm, nofun⟩

theorem Grown.push {kind : SymbolKind} {before between after : Numbering} {added : List Symbol}
    {symbol : Symbol} (grown : Grown kind before added between) (same : symbol.kind = kind)
    (pushed : after.symbols = between.symbols.push symbol) :
    Grown kind before (added ++ [symbol]) after := by
  constructor
  · rw [pushed, Array.toList_push, grown.symbols, List.append_assoc]
  · intro other found
    rcases List.mem_append.mp found with earlier | new
    · exact grown.kinds other earlier
    · rw [List.mem_singleton.mp new]
      exact same

theorem Grown.next {kind : SymbolKind} {before after : Numbering} {added : List Symbol}
    (grown : Grown kind before added after) : after.next = before.next + added.length := by
  rw [Numbering.next, Numbering.next, ← Array.length_toList, grown.symbols, List.length_append,
    Array.length_toList]

section Bounded
variable {α : Type} {cmp : α → α → Ordering} {map : Std.TreeMap α Nat cmp}

/-- All numbers in the map are below a bound. -/
def Bounded (map : Std.TreeMap α Nat cmp) (bound : Nat) : Prop :=
  ∀ (key : α) (id : Nat), map[key]? = some id → id < bound

theorem Bounded.mono {bound larger : Nat} (bounded : Bounded map bound) (le : bound ≤ larger) :
    Bounded map larger :=
  fun key id found => Nat.lt_of_lt_of_le (bounded key id found) le

variable [Std.TransCmp cmp]

theorem Bounded.insert {bound : Nat} (bounded : Bounded map bound) (key : α) {number : Nat}
    (less : number < bound) : Bounded (map.insert key number) bound := by
  intro other id found
  rw [Std.TreeMap.getElem?_insert] at found
  split at found
  · exact Option.some.inj found ▸ less
  · exact bounded other id found

theorem Bounded.insertIfNew {bound : Nat} (bounded : Bounded map bound) (key : α) {number : Nat}
    (less : number < bound) : Bounded (map.insertIfNew key number) bound := by
  intro other id found
  rw [Std.TreeMap.getElem?_insertIfNew] at found
  split at found
  · exact Option.some.inj found ▸ less
  · exact bounded other id found

end Bounded

/-- Every number that is kept for later is the number of a symbol. -/
structure Known (numbering : Numbering) : Prop where
  names : Bounded numbering.ids numbering.next
  literals : Bounded numbering.literalIds numbering.next
  auxiliaries : Bounded numbering.auxiliaryIds numbering.next

theorem known_initial : Known {} := by
  constructor <;> intro key id found <;> simp at found

theorem Known.push {numbering : Numbering} (known : numbering.Known) (symbol : Symbol)
    (tokens : Array Token) :
    { numbering with symbols := numbering.symbols.push symbol, tokens := tokens }.Known := by
  have le : numbering.symbols.size ≤ (numbering.symbols.push symbol).size := by simp
  exact ⟨known.names.mono le, known.literals.mono le, known.auxiliaries.mono le⟩

theorem next_lt_push (numbering : Numbering) (symbol : Symbol) :
    numbering.next < (numbering.symbols.push symbol).size := by
  rw [Array.size_push]
  exact Nat.lt_succ_self _

/-- Behind the end there are tokens only, and the number of each is its place. -/
structure TokensLaid (numbering : Numbering) : Prop where
  symbols : ∃ terminals : List Symbol, numbering.symbols.toList = .stop :: terminals
    ∧ terminals.length = numbering.tokens.size ∧ ∀ symbol ∈ terminals, symbol.kind = .terminal
  places : ∀ index token, numbering.tokens[index]? = some token → token.symbol = index + 1
  known : numbering.Known

theorem TokensLaid.next {numbering : Numbering} (laid : numbering.TokensLaid) :
    numbering.next = numbering.tokens.size + 1 := by
  obtain ⟨terminals, shape, count, _⟩ := laid.symbols
  rw [Numbering.next, ← Array.length_toList, shape, List.length_cons, count]

theorem tokensLaid_initial : TokensLaid {} :=
  ⟨⟨[], rfl, rfl, nofun⟩, nofun, known_initial⟩

theorem TokensLaid.withToken {numbering : Numbering} (laid : numbering.TokensLaid) (symbol : Symbol)
    (terminal : symbol.kind = .terminal) (matcher : Matcher) (immediate : Bool) :
    (numbering.withToken symbol matcher immediate).TokensLaid := by
  obtain ⟨terminals, shape, count, kinds⟩ := laid.symbols
  refine ⟨⟨terminals ++ [symbol], ?_, ?_, ?_⟩, ?_, laid.known.push symbol _⟩
  · rw [Numbering.withToken, Array.toList_push, shape, List.cons_append]
  · rw [Numbering.withToken, Array.size_push, List.length_append, count, List.length_singleton]
  · intro other found
    rcases List.mem_append.mp found with earlier | new
    · exact kinds other earlier
    · rw [List.mem_singleton.mp new]
      exact terminal
  · intro index token found
    rw [Numbering.withToken, Array.getElem?_push] at found
    split at found
    · rename_i last
      rw [← Option.some.inj found, last]
      exact laid.next
    · exact laid.places index token found

theorem TokensLaid.addLexicalRule {room : Nat} {numbering after : Numbering}
    (laid : numbering.TokensLaid) {name : String} {body : Rule} {immediate : Bool}
    (done : numbering.addLexicalRule room name body immediate = .ok after) : after.TokensLaid := by
  rw [addLexicalRule_eq_ok] at done
  obtain ⟨_, matcher, _, rfl⟩ := done
  obtain ⟨symbols, places, known⟩ := laid.withToken (.ofRule name .terminal) rfl matcher immediate
  exact ⟨symbols, places,
    ⟨known.names.insert name (next_lt_push _ _), known.literals, known.auxiliaries⟩⟩

/-- What adding a token inside of something else keeps: the layout, the earlier numbers, and that the
number it answers is one of a symbol. -/
theorem TokensLaid.addInline {room : Nat} {numbering after : Numbering} {id : Nat}
    (laid : numbering.TokensLaid) {place : String} {token : Rule}
    (done : numbering.addInline room place token = .ok (id, after)) :
    after.TokensLaid ∧ numbering.next ≤ after.next ∧ id < after.next := by
  have grows (symbol : Symbol) : numbering.next ≤ (numbering.symbols.push symbol).size :=
    Nat.le_of_lt (next_lt_push numbering symbol)
  rw [addInline_eq_ok] at done
  rcases done with ⟨text, _, literal⟩ | ⟨_, source, _, auxiliary⟩
  · rw [addLiteral_eq_ok] at literal
    rcases literal with ⟨shared, rfl⟩ | ⟨_, _, rfl, rfl⟩
    · exact ⟨laid, Nat.le_refl _, laid.known.literals _ id shared⟩
    · obtain ⟨symbols, places, known⟩ :=
        laid.withToken (.literal text) rfl (.literal text) token.tokenBody.2
      exact ⟨⟨symbols, places, ⟨known.names, known.literals.insert _ (next_lt_push _ _),
        known.auxiliaries⟩⟩, grows _, next_lt_push _ _⟩
  · rw [addAuxiliary_eq_ok] at auxiliary
    rcases auxiliary with ⟨shared, rfl⟩ | ⟨_, _, rfl, matcher, _, rfl⟩
    · exact ⟨laid, Nat.le_refl _, laid.known.auxiliaries _ id shared⟩
    · obtain ⟨symbols, places, known⟩ :=
        laid.withToken (.auxiliary (numbering.auxiliaryName place)) rfl matcher
          token.tokenBody.2
      exact ⟨⟨symbols, places, ⟨known.names, known.literals,
        known.auxiliaries.insert _ (next_lt_push _ _)⟩⟩, grows _, next_lt_push _ _⟩

theorem TokensLaid.addRuleTokens {room : Nat} {numbering after : Numbering}
    (laid : numbering.TokensLaid) {name : String} {rule : Rule}
    (done : numbering.addRuleTokens room name rule = .ok after) : after.TokensLaid := by
  cases lexical : rule.lexicalBody? with
  | some found =>
      rw [addRuleTokens_lexical lexical] at done
      exact laid.addLexicalRule done
  | none =>
      rw [addRuleTokens_inline lexical] at done
      refine foldlM_keeps ?_ laid done
      intro token _ before after laid added
      rw [map_eq_ok] at added
      obtain ⟨⟨id, after⟩, added, rfl⟩ := added
      exact (laid.addInline added).1

/-- The tokens among the extras are laid like the others, and have numbers of symbols. -/
def ExtrasLaid (found : List ExtraRef × Numbering) : Prop :=
  found.2.TokensLaid ∧ ∀ id, .id id ∈ found.1 → id < found.2.next

theorem ExtrasLaid.addExtra {room : Nat} {found after : List ExtraRef × Numbering}
    (laid : ExtrasLaid found) {extra : Rule} (done : addExtra room found extra = .ok after) :
    ExtrasLaid after := by
  rw [addExtra_eq_ok] at done
  rcases done with ⟨_, rfl⟩ | ⟨_, id, after, added, rfl⟩
  · refine ⟨laid.1, fun id found => ?_⟩
    rcases List.mem_cons.mp found with new | earlier
    · cases new
    · exact laid.2 id earlier
  · obtain ⟨tokens, grows, less⟩ := laid.1.addInline added
    refine ⟨tokens, fun other found => ?_⟩
    rcases List.mem_cons.mp found with new | earlier
    · rw [ExtraRef.id.inj new]
      exact less
    · exact Nat.lt_of_lt_of_le (laid.2 other earlier) grows

/-- The external tokens stand behind the other tokens, and their numbers are their places there. -/
structure ExternalsLaid (tokens : Numbering) (found : List Nat × Numbering) : Prop where
  grown : ∃ externals, Grown .external tokens externals found.2
    ∧ found.1.reverse = List.range' tokens.next externals.length
  tokens : found.2.tokens = tokens.tokens
  known : found.2.Known

theorem ExternalsLaid.addExternal {room : Nat} {tokens : Numbering} {found after : List Nat × Numbering}
    (laid : ExternalsLaid tokens found) {external : Rule}
    (done : addExternal room found external = .ok after) : ExternalsLaid tokens after := by
  rw [addExternal_eq_ok] at done
  rcases done with ⟨_, rfl⟩ | ⟨_, name, _, rfl⟩
  · exact laid
  · obtain ⟨⟨externals, grown, numbers⟩, same, known⟩ := laid
    refine ⟨⟨externals ++ [.external name external.isSymbol], ?_, ?_⟩, same, ?_⟩
    · exact grown.push rfl rfl
    · rw [List.reverse_cons, numbers, grown.next, List.length_append, List.length_singleton,
        List.range'_concat, Nat.one_mul]
    · have known := known.push (.external name external.isSymbol) found.2.tokens
      exact ⟨known.names.insertIfNew name (next_lt_push _ _), known.literals, known.auxiliaries⟩

/-- The rules that are no tokens stand behind the external tokens, in the order of all rules. -/
structure RulesLaid (externals : Numbering) (names : List String) (numbering : Numbering) : Prop where
  grown : ∃ nonterminals, Grown .nonterminal externals nonterminals numbering
    ∧ (nonterminals.map (·.name)).Sublist names
  tokens : numbering.tokens = externals.tokens
  known : numbering.Known

theorem RulesLaid.addRule {room : Nat} {isSupertype : String → Bool} {externals numbering after : Numbering}
    {names : List String} (laid : RulesLaid externals names numbering) {name : String}
    (done : numbering.addRule room isSupertype name = .ok after) :
    RulesLaid externals (names ++ [name]) after := by
  obtain ⟨⟨nonterminals, grown, order⟩, same, known⟩ := laid
  rw [addRule_eq_ok] at done
  rcases done with ⟨_, rfl⟩ | ⟨_, _, rfl⟩
  · exact ⟨⟨nonterminals, grown, order.trans (List.sublist_append_left _ _)⟩, same, known⟩
  · refine ⟨⟨nonterminals ++ [ruleSymbol isSupertype name], grown.push rfl rfl, ?_⟩, same, ?_⟩
    · rw [List.map_append]
      exact order.append (List.Sublist.refl _)
    · have known := known.push (ruleSymbol isSupertype name) numbering.tokens
      exact ⟨known.names.insert name (next_lt_push _ _), known.literals, known.auxiliaries⟩

/-- The aliases stand behind all other symbols. -/
structure AliasesLaid (rules numbering : Numbering) : Prop where
  grown : ∃ aliases, Grown .aliased rules aliases numbering
  tokens : numbering.tokens = rules.tokens
  known : numbering.Known

theorem AliasesLaid.addAlias {room : Nat} {rules numbering after : Numbering}
    (laid : AliasesLaid rules numbering) {spelling : String × Bool}
    (done : numbering.addAlias room spelling = .ok after) : AliasesLaid rules after := by
  rw [addAlias_eq_ok] at done
  rcases done with ⟨_, rfl⟩ | ⟨_, _, rfl⟩
  · exact laid
  · obtain ⟨⟨aliases, grown⟩, same, known⟩ := laid
    exact ⟨⟨aliases ++ [.aliased spelling.1 spelling.2], grown.push rfl rfl⟩, same,
      known.push _ numbering.tokens⟩

end Numbering

/-- The symbols of a numbered grammar, block by block. -/
structure NumberedGrammar.Blocks (names : List String) (numbered : NumberedGrammar)
    (terminals externals nonterminals aliases : List Symbol) : Prop where
  symbols : numbered.numbering.symbols.toList =
    .stop :: (terminals ++ (externals ++ (nonterminals ++ aliases)))
  terminalKind : ∀ symbol ∈ terminals, symbol.kind = .terminal
  externalKind : ∀ symbol ∈ externals, symbol.kind = .external
  nonterminalKind : ∀ symbol ∈ nonterminals, symbol.kind = .nonterminal
  aliasedKind : ∀ symbol ∈ aliases, symbol.kind = .aliased
  tokenCount : terminals.length = numbered.numbering.tokens.size
  tokenPlaces : ∀ index token, numbered.numbering.tokens[index]? = some token →
    token.symbol = index + 1
  externalPlaces : numbered.externals =
    List.range' (1 + numbered.numbering.tokens.size) externals.length
  order : (nonterminals.map (·.name)).Sublist names
  extras : ∀ id ∈ numbered.extras, id < numbered.numbering.next
  known : numbered.numbering.Known

open Treegram.Numbering in
/-- Numbering goes through its phases one after the other, and each leaves its block. -/
theorem Grammar.number_blocks {room : Nat} {start : String} {grammar : Grammar}
    {numbered : NumberedGrammar} (done : grammar.number room start = .ok numbered) :
    ∃ terminals externals nonterminals aliases,
      numbered.Blocks ((grammar.numberedRules start).map (·.1)) terminals externals nonterminals
        aliases := by
  rw [Grammar.number_eq_ok] at done
  obtain ⟨ruleTokens, references, tokens, externalIds, beforeRules, beforeAliases, after, first, second,
    third, fourth, fifth, rfl⟩ := done
  -- Each phase keeps what the phases before it have laid, so five folds give the five blocks.
  have first : ruleTokens.TokensLaid :=
    foldlM_keeps (fun _ _ _ _ laid done => laid.addRuleTokens done) tokensLaid_initial first
  obtain ⟨tokensLaid, extrasKnown⟩ : ExtrasLaid (references, tokens) :=
    foldlM_keeps (fun _ _ _ _ laid done => laid.addExtra done)
      ⟨first, fun _ found => absurd found List.not_mem_nil⟩ second
  have third : ExternalsLaid tokens (externalIds, beforeRules) :=
    foldlM_keeps (fun _ _ _ _ laid done => laid.addExternal done)
      ⟨⟨[], .refl _ _, rfl⟩, rfl, tokensLaid.known⟩ third
  have fourth : RulesLaid beforeRules ((grammar.numberedRules start).map (·.1)) beforeAliases :=
    foldlM_reaches (RulesLaid beforeRules) (fun _ _ _ _ laid done => laid.addRule done)
      ⟨⟨[], .refl _ _, List.Sublist.refl _⟩, rfl, third.known⟩ fourth
  have fifth : AliasesLaid beforeAliases after :=
    foldlM_keeps (fun _ _ _ _ laid done => laid.addAlias done) ⟨⟨[], .refl _ _⟩, rfl, fourth.known⟩
      fifth
  obtain ⟨terminals, stop, count, kinds⟩ := tokensLaid.symbols
  obtain ⟨externals, externalsGrown, numbers⟩ := third.grown
  obtain ⟨nonterminals, rulesGrown, order⟩ := fourth.grown
  obtain ⟨aliases, aliasesGrown⟩ := fifth.grown
  have same : after.tokens = tokens.tokens :=
    fifth.tokens.trans (fourth.tokens.trans third.tokens)
  refine ⟨terminals, externals, nonterminals, aliases, ?_, kinds, externalsGrown.kinds,
    rulesGrown.kinds, aliasesGrown.kinds, ?_, ?_, ?_, order, ?_, fifth.known⟩
  · rw [aliasesGrown.symbols, rulesGrown.symbols, externalsGrown.symbols, stop]
    simp only [List.cons_append, List.append_assoc]
  · rw [count, same]
  · rw [same]
    exact tokensLaid.places
  · rw [same, numbers, tokensLaid.next, Nat.add_comm]
  · intro id found
    -- Numbers of extras were known before the later phases, which only add symbols.
    have grows : tokens.next ≤ after.next := by
      rw [aliasesGrown.next, rulesGrown.next, externalsGrown.next]
      omega
    rw [List.mem_filterMap] at found
    obtain ⟨reference, member, resolved⟩ := found
    cases reference with
    | id number =>
        rw [← Option.some.inj resolved]
        exact Nat.lt_of_lt_of_le (extrasKnown number (List.mem_reverse.mp member)) grows
    | name spelling => exact fifth.known.names spelling id resolved

theorem nodup_of_ascending {names : List String}
    (ascending : names.Pairwise (fun name other => compare name other = .lt)) : names.Nodup := by
  refine ascending.imp fun less same => ?_
  rw [same, Std.ReflOrd.compare_self] at less
  cases less

/-- Rules are numbered with the start rule first and the others in ascending order. -/
theorem Grammar.numberedRules_names {grammar : Grammar} {start : String}
    (root : grammar.startRule? = some start) :
    ∃ others, (grammar.numberedRules start).map (·.1) = start :: others
      ∧ others.Pairwise (fun name other => compare name other = .lt) ∧ start ∉ others := by
  have member : start ∈ grammar.rules.keys := by
    rw [Grammar.startRule?] at root
    split at root
    · rename_i only single
      have found : only ∈ grammar.rootCandidates := by rw [single]; exact List.mem_singleton_self only
      rw [← Option.some.inj root]
      exact (List.mem_filter.mp found).1
    · cases root
  have ascending : grammar.rules.keys.Pairwise (fun name other => compare name other = .lt) :=
    Std.ExtTreeMap.ordered_keys
  have distinct : grammar.rules.keys.Nodup := nodup_of_ascending ascending
  refine ⟨grammar.rules.keys.filter (fun name => !(name == start)), ?_, ascending.filter _, ?_⟩
  · rw [Grammar.numberedRules, List.partition_eq_filter_filter, List.map_append,
      ← Std.ExtTreeMap.map_fst_toList_eq_keys, List.filter_map]
    have first := List.filter_beq (a := start) (l := grammar.rules.keys)
    rw [distinct.count, if_pos member, ← Std.ExtTreeMap.map_fst_toList_eq_keys,
      List.filter_map] at first
    exact congrArg (· ++ _) first
  · intro found
    simp at found

namespace Language

/-- The names of the rules that are no tokens, in the order of their numbers. -/
def nonterminalNames (language : Language) : List String :=
  (language.symbols.toList.filter (·.kind = .nonterminal)).map (·.name)

/-- The layout of a grammar's symbols. -/
structure Layout (grammar : Grammar) (language : Language) : Prop where
  /-- Symbol 0 is the hidden end of the input, and no other symbol is one. -/
  stop : language.symbol? 0 = some .stop
  onlyStop : ∀ id, language.symbolKind? id = some .stop ↔ id = 0
  /-- Behind it, each kind has one block. -/
  blocks : ∃ nonterminals aliases : Nat, language.symbols.toList.map (·.kind) =
    .stop :: (List.replicate language.tokenCount .terminal
      ++ (List.replicate language.externalCount .external
      ++ (List.replicate nonterminals .nonterminal ++ List.replicate aliases .aliased)))
  tokenPlaces : ∀ index token, language.tokens[index]? = some token → token.symbol = index + 1
  terminals : ∀ id, language.symbolKind? id = some .terminal ↔
    ∃ token ∈ language.tokens.toList, token.symbol = id
  externalPlaces : ∀ index id, language.externals[index]? = some id →
    id = 1 + language.tokenCount + index
  distinct : language.nonterminalNames.Nodup
  /-- The start rule comes first if it is no token, the other rules in the order of their bytes. -/
  ordered : ∃ start, grammar.startRule? = some start
    ∧ (start ∈ language.nonterminalNames → language.nonterminalNames.head? = some start)
    ∧ (language.nonterminalNames.filter (· ≠ start)).Pairwise
        (fun name other => Unicode.utf8Bytes name < Unicode.utf8Bytes other)
  extras : ∀ id ∈ language.extras, id < language.symbolCount
  supertypes : ∀ id ∈ language.supertypes, id < language.symbolCount
  start : language.startSymbol < language.symbolCount
  word : ∀ id, language.wordToken = some id → id < language.symbolCount

theorem kinds_eq {symbols : List Symbol} {kind : SymbolKind}
    (kinds : ∀ symbol ∈ symbols, symbol.kind = kind) :
    symbols.map (·.kind) = List.replicate symbols.length kind := by
  rw [List.eq_replicate_iff, List.length_map]
  exact ⟨rfl, List.forall_mem_map.mpr kinds⟩

theorem filter_kind {symbols : List Symbol} {kind wanted : SymbolKind}
    (kinds : ∀ symbol ∈ symbols, symbol.kind = kind) :
    symbols.filter (·.kind = wanted) = if kind = wanted then symbols else [] := by
  split
  · rename_i same
    exact List.filter_eq_self.mpr fun symbol found => by
      rw [kinds symbol found]
      exact decide_eq_true same
  · rename_i other
    exact List.filter_eq_nil_iff.mpr fun symbol found => by
      rw [kinds symbol found]
      simpa using other

end Language

section Blocks
variable {names : List String} {grammar : Grammar} {start : String} {numbered : NumberedGrammar}
  {version : Nat} {terminals externals nonterminals aliases : List Symbol}

theorem NumberedGrammar.Blocks.kinds
    (blocks : numbered.Blocks names terminals externals nonterminals aliases) :
    numbered.numbering.symbols.toList.map (·.kind) =
      .stop :: (List.replicate terminals.length .terminal
        ++ (List.replicate externals.length .external
        ++ (List.replicate nonterminals.length .nonterminal
        ++ List.replicate aliases.length .aliased))) := by
  rw [blocks.symbols, List.map_cons, List.map_append, List.map_append, List.map_append,
    Language.kinds_eq blocks.terminalKind, Language.kinds_eq blocks.externalKind,
    Language.kinds_eq blocks.nonterminalKind, Language.kinds_eq blocks.aliasedKind]
  rfl

theorem NumberedGrammar.Blocks.nonterminalNames_eq
    (blocks : numbered.Blocks names terminals externals nonterminals aliases) :
    (Language.ofNumbered grammar start numbered version).nonterminalNames =
      nonterminals.map (·.name) := by
  rw [Language.nonterminalNames]
  change ((numbered.numbering.symbols.toList.filter _).map _) = _
  rw [blocks.symbols, List.filter_cons_of_neg (by decide), List.filter_append, List.filter_append,
    List.filter_append, Language.filter_kind blocks.terminalKind,
    Language.filter_kind blocks.externalKind, Language.filter_kind blocks.nonterminalKind,
    Language.filter_kind blocks.aliasedKind]
  simp

/-- The kind of a symbol is told by the block its number falls into. -/
theorem NumberedGrammar.Blocks.kind_at
    (blocks : numbered.Blocks names terminals externals nonterminals aliases) (id : Nat) :
    (Language.ofNumbered grammar start numbered version).symbolKind? id =
      if id = 0 then some .stop
      else if id ≤ terminals.length then some .terminal
      else if id ≤ terminals.length + externals.length then some .external
      else if id ≤ terminals.length + externals.length + nonterminals.length then some .nonterminal
      else if id ≤ terminals.length + externals.length + nonterminals.length + aliases.length then
        some .aliased
      else none := by
  have kinds := blocks.kinds
  have read : (Language.ofNumbered grammar start numbered version).symbolKind? id =
      (numbered.numbering.symbols.toList.map (·.kind))[id]? := by
    rw [List.getElem?_map, Array.getElem?_toList]
    rfl
  rw [read, kinds]
  cases id with
  | zero => rfl
  -- Behind the first symbol the blocks stand one after the other.
  | succ place =>
      simp only [List.getElem?_cons_succ, List.getElem?_append, List.length_replicate,
        List.getElem?_replicate]
      grind

theorem NumberedGrammar.Blocks.kind_stop
    (blocks : numbered.Blocks names terminals externals nonterminals aliases) (id : Nat) :
    (Language.ofNumbered grammar start numbered version).symbolKind? id = some .stop ↔ id = 0 := by
  rw [blocks.kind_at]
  clear blocks
  grind

theorem NumberedGrammar.Blocks.kind_terminal
    (blocks : numbered.Blocks names terminals externals nonterminals aliases) (id : Nat) :
    (Language.ofNumbered grammar start numbered version).symbolKind? id = some .terminal ↔
      0 < id ∧ id ≤ numbered.numbering.tokens.size := by
  rw [blocks.kind_at, ← blocks.tokenCount]
  clear blocks
  grind

/-- The numbers of the tokens are those right behind the first symbol. -/
theorem NumberedGrammar.Blocks.token_iff
    (blocks : numbered.Blocks names terminals externals nonterminals aliases) (id : Nat) :
    0 < id ∧ id ≤ numbered.numbering.tokens.size ↔
      ∃ token ∈ numbered.numbering.tokens.toList, token.symbol = id := by
  constructor
  · rintro ⟨positive, inside⟩
    have inside : id - 1 < numbered.numbering.tokens.size := by omega
    have found := Array.getElem?_eq_getElem inside
    refine ⟨numbered.numbering.tokens[id - 1], Array.getElem_mem_toList inside, ?_⟩
    have symbol := blocks.tokenPlaces (id - 1) _ found
    omega
  · rintro ⟨token, member, rfl⟩
    obtain ⟨index, found⟩ := List.mem_iff_getElem?.mp member
    rw [Array.getElem?_toList] at found
    have inside : index < numbered.numbering.tokens.size := (Array.getElem?_eq_some_iff.mp found).1
    have symbol := blocks.tokenPlaces index token found
    omega

end Blocks

/-- The part of an ascending list of names behind its first, when some names are left out. -/
theorem sublist_start_first {names others : List String} {start : String}
    (order : names.Sublist (start :: others)) (apart : start ∉ others) :
    (start ∈ names → names.head? = some start) ∧ (names.filter (· ≠ start)).Sublist others := by
  have keepOthers : others.filter (· ≠ start) = others := List.filter_eq_self.mpr fun name found => by
    have differs : name ≠ start := fun same => apart (same ▸ found)
    simpa using differs
  have dropStart : (start :: others).filter (· ≠ start) = others := by
    rw [List.filter_cons_of_neg (by simp), keepOthers]
  constructor
  · intro member
    rcases List.sublist_cons_iff.mp order with behind | ⟨rest, rfl, _⟩
    · exact absurd (behind.subset member) apart
    · rfl
  · exact dropStart ▸ order.filter _

/-- Every language that loads has its symbols laid out so. -/
theorem Language.load_layout {options : LoadOptions} {grammar : Grammar} {language : Language}
    (done : (Language.load options grammar).1 = .ok language) : language.Layout grammar := by
  rw [Language.load, Language.loadWithin_eq_ok] at done
  obtain ⟨_, start, numbered, root, made, rfl⟩ := done
  obtain ⟨terminals, externals, nonterminals, aliases, blocks⟩ := Grammar.number_blocks made
  obtain ⟨others, names, ascending, apart⟩ := Grammar.numberedRules_names root
  have order : (nonterminals.map (·.name)).Sublist (start :: others) := names ▸ blocks.order
  obtain ⟨first, behind⟩ := sublist_start_first order apart
  have count : externals.length = numbered.externals.length := by
    rw [blocks.externalPlaces, List.length_range']
  have size : (0 : Nat) < numbered.numbering.next := by
    rw [Numbering.next, ← Array.length_toList, blocks.symbols]
    exact Nat.succ_pos _
  have known (name : String) (id : Nat) (found : numbered.numbering.ids[name]? = some id) :
      id < numbered.numbering.next := blocks.known.names name id found
  constructor
  case stop =>
    change numbered.numbering.symbols[0]? = _
    rw [← Array.getElem?_toList, blocks.symbols]
    rfl
  case onlyStop => exact blocks.kind_stop
  case blocks =>
    refine ⟨nonterminals.length, aliases.length, ?_⟩
    rw [Language.tokenCount, Language.externalCount]
    change numbered.numbering.symbols.toList.map _ = _
    rw [blocks.kinds, blocks.tokenCount, count]
    rfl
  case tokenPlaces => exact blocks.tokenPlaces
  case terminals =>
    intro id
    rw [blocks.kind_terminal]
    exact blocks.token_iff id
  case externalPlaces =>
    intro index id found
    change numbered.externals[index]? = _ at found
    rw [blocks.externalPlaces] at found
    obtain ⟨inside, here⟩ := List.getElem?_eq_some_iff.mp found
    rw [← here, List.getElem_range', Nat.one_mul]
    rfl
  case distinct =>
    rw [blocks.nonterminalNames_eq]
    exact order.nodup (List.nodup_cons.mpr ⟨apart, nodup_of_ascending ascending⟩)
  case ordered =>
    rw [blocks.nonterminalNames_eq]
    exact ⟨start, root, first, (ascending.imp Unicode.utf8Bytes_lt).sublist behind⟩
  case extras => exact blocks.extras
  case supertypes =>
    intro id found
    obtain ⟨name, _, resolved⟩ := List.mem_filterMap.mp (mem_ascending.mp found)
    exact known name id resolved
  case start =>
    change (numbered.numbering.ids[start]?).getD 0 < numbered.numbering.next
    cases found : numbered.numbering.ids[start]? with
    | none => exact size
    | some id => exact known start id found
  case word =>
    intro id found
    obtain ⟨name, _, resolved⟩ := Option.bind_eq_some_iff.mp found
    exact known name id resolved

/-- Sums of two digits, with symbols of every kind. -/
def sumGrammar : Grammar where
  name := "sum"
  rules := Std.ExtTreeMap.ofList
    [("sum", Rule.seq [.symbol "digit", .string "+", .aliased (.symbol "summand") "rest" true]),
      ("summand", Rule.choice [.symbol "digit", .seq [.symbol "indent", .symbol "digit"]]),
      ("digit", Rule.token (.choice [.string "0", .string "1"]))]
  extras := some [.string " "]
  externals := some [.symbol "indent"]
  word := some "digit"
  supertypes := some ["summand"]

theorem sumGrammar_loads : ∃ language, (Language.load {} sumGrammar).1 = .ok language := by
  decide +kernel

theorem Language.load_layout_sum :
    ∃ language, (Language.load {} sumGrammar).1 = .ok language ∧ language.Layout sumGrammar := by
  obtain ⟨language, done⟩ := sumGrammar_loads
  exact ⟨language, done, load_layout done⟩

end Treegram
