import Treegram.Proofs.Language.Layout
import Treegram.Proofs.Language.Phases

/-!
Which grammars load: exactly those without a defect whose tokens can be made and for whose table
there is room. What is loaded is the table that the grammar needs, and the options leave no trace in
it but the version.
-/

namespace Treegram

/-! ## Numbers -/

namespace Numbering
variable {room : Nat} {numbering after : Numbering}

/-- The number that is kept for a name is that of a symbol of this name. -/
def NamesOwn (numbering : Numbering) : Prop :=
  ∀ (name : String) (id : Nat), numbering.ids[name]? = some id →
    ∃ symbol, numbering.symbols[id]? = some symbol ∧ symbol.name = name

theorem NamesOwn.push (own : numbering.NamesOwn) (symbol : Symbol) {other : Numbering}
    (ids : other.ids = numbering.ids) (pushed : other.symbols = numbering.symbols.push symbol) :
    other.NamesOwn := by
  intro name id found
  rw [ids] at found
  obtain ⟨held, here, named⟩ := own name id found
  have inside := (Array.getElem?_eq_some_iff.mp here).1
  rw [Array.getElem?_eq_getElem inside] at here
  exact ⟨held, by rw [pushed, Array.getElem?_push_lt inside, here], named⟩

theorem NamesOwn.insert (own : numbering.NamesOwn) (symbol : Symbol) {other : Numbering}
    (ids : ∀ name id, other.ids[name]? = some id →
      numbering.ids[name]? = some id ∨ (symbol.name = name ∧ id = numbering.next))
    (pushed : other.symbols = numbering.symbols.push symbol) : other.NamesOwn := by
  intro name id found
  rcases ids name id found with earlier | ⟨named, rfl⟩
  · have grown : ({ other with ids := numbering.ids } : Numbering).NamesOwn :=
      own.push symbol rfl pushed
    exact grown name id earlier
  · exact ⟨symbol, by rw [pushed, Numbering.next, Array.getElem?_push_size], named⟩

theorem NamesOwn.addInline (own : numbering.NamesOwn) {place : String} {token : Rule} {id : Nat}
    (done : numbering.addInline room place token = .ok (id, after)) : after.NamesOwn := by
  rw [addInline_eq_ok] at done
  rcases done with ⟨text, _, literal⟩ | ⟨_, source, _, auxiliary⟩
  · rw [addLiteral_eq_ok] at literal
    rcases literal with ⟨_, rfl⟩ | ⟨_, _, _, rfl⟩
    · exact own
    · exact own.push _ rfl rfl
  · rw [addAuxiliary_eq_ok] at auxiliary
    rcases auxiliary with ⟨_, rfl⟩ | ⟨_, _, _, _, _, rfl⟩
    · exact own
    · exact own.push _ rfl rfl

theorem NamesOwn.addRuleTokens (own : numbering.NamesOwn) {name : String} {rule : Rule}
    (done : numbering.addRuleTokens room name rule = .ok after) : after.NamesOwn := by
  cases lexical : rule.lexicalBody? with
  | some found =>
      rw [addRuleTokens_lexical lexical, addLexicalRule_eq_ok] at done
      obtain ⟨_, matcher, _, rfl⟩ := done
      refine own.insert (.ofRule name .terminal) (fun other id found => ?_) rfl
      change (numbering.ids.insert name numbering.next)[other]? = _ at found
      simp only [Std.TreeMap.getElem?_insert, Std.LawfulEqCmp.compare_eq_iff_eq] at found
      grind [Symbol.ofRule]
  | none =>
      rw [addRuleTokens_inline lexical] at done
      refine foldlM_keeps ?_ own done
      intro token _ before after own added
      rw [map_eq_ok] at added
      obtain ⟨⟨id, after⟩, added, rfl⟩ := added
      exact own.addInline added

/-- So are those that are kept beside something else. -/
def FoundOwn {α : Type} (found : α × Numbering) : Prop := found.2.NamesOwn

theorem FoundOwn.addExtra {found after : List ExtraRef × Numbering} (own : FoundOwn found)
    {extra : Rule} (done : Numbering.addExtra room found extra = .ok after) : FoundOwn after := by
  rw [addExtra_eq_ok] at done
  rcases done with ⟨_, rfl⟩ | ⟨_, id, after, added, rfl⟩
  · exact own
  · exact NamesOwn.addInline own added

theorem FoundOwn.addExternal {found after : List Nat × Numbering} (own : FoundOwn found)
    {external : Rule} (done : Numbering.addExternal room found external = .ok after) :
    FoundOwn after := by
  rw [addExternal_eq_ok] at done
  rcases done with ⟨_, rfl⟩ | ⟨_, name, _, rfl⟩
  · exact own
  · refine NamesOwn.insert own (.external name external.isSymbol) (fun other id held => ?_) rfl
    simp only [Std.TreeMap.getElem?_insertIfNew, Std.LawfulEqCmp.compare_eq_iff_eq] at held
    grind [Symbol.external]

theorem NamesOwn.addRule {isSupertype : String → Bool} (own : numbering.NamesOwn) {name : String}
    (done : numbering.addRule room isSupertype name = .ok after) : after.NamesOwn := by
  rw [addRule_eq_ok] at done
  rcases done with ⟨_, rfl⟩ | ⟨_, _, rfl⟩
  · exact own
  · refine own.insert (ruleSymbol isSupertype name) (fun other id held => ?_) rfl
    simp only [Std.TreeMap.getElem?_insert, Std.LawfulEqCmp.compare_eq_iff_eq] at held
    grind [ruleSymbol, Symbol.ofRule]

/-- An alias has no number that is kept for later. -/
theorem addAlias_ids {spelling : String × Bool} (done : numbering.addAlias room spelling = .ok after) :
    after.ids = numbering.ids := by
  rw [addAlias_eq_ok] at done
  rcases done with ⟨_, rfl⟩ | ⟨_, _, rfl⟩ <;> rfl

theorem NamesOwn.addAlias {spelling : String × Bool} (own : numbering.NamesOwn)
    (done : numbering.addAlias room spelling = .ok after) : after.NamesOwn := by
  have ids := addAlias_ids done
  rw [addAlias_eq_ok] at done
  rcases done with ⟨_, rfl⟩ | ⟨_, _, rfl⟩
  · exact own
  · exact own.push _ ids rfl

theorem addRule_known {isSupertype : String → Bool} {name : String} {names : List String}
    (known : ∀ name ∈ names, name ∈ numbering.ids)
    (done : numbering.addRule room isSupertype name = .ok after) :
    ∀ other ∈ names ++ [name], other ∈ after.ids := by
  rw [List.forall_mem_append, List.forall_mem_singleton]
  rw [addRule_eq_ok] at done
  rcases done with ⟨here, rfl⟩ | ⟨_, _, rfl⟩
  · exact ⟨known, Std.TreeMap.contains_iff_mem.mp here⟩
  · simp only [Std.TreeMap.mem_insert, Std.LawfulEqCmp.compare_eq_iff_eq, true_or, and_true]
    exact fun other found => .inr (known other found)

end Numbering

namespace Grammar
variable {grammar : Grammar} {start : String} {room : Nat} {numbered : NumberedGrammar}

open Treegram.Numbering

/-- Every rule has a number, and every number that is kept for a name is that of its symbol. -/
theorem number_names (done : grammar.number room start = .ok numbered) :
    numbered.numbering.NamesOwn
      ∧ ∀ name ∈ (grammar.numberedRules start).map (·.1), name ∈ numbered.numbering.ids := by
  rw [number_eq_ok] at done
  obtain ⟨ruleTokens, references, tokens, externals, beforeRules, beforeAliases, after, first, second,
    third, fourth, fifth, rfl⟩ := done
  -- Each phase keeps the numbers of names right; the aliases, which come last, add no names.
  have initial : ({} : Numbering).NamesOwn := by
    intro name id found
    simp at found
  have first : ruleTokens.NamesOwn :=
    foldlM_keeps (fun _ _ _ _ own done => own.addRuleTokens done) initial first
  have second : FoundOwn (references, tokens) :=
    foldlM_keeps (fun _ _ _ _ own done => FoundOwn.addExtra own done)
      (show FoundOwn ([], ruleTokens) from first) second
  have third : FoundOwn (externals, beforeRules) :=
    foldlM_keeps (fun _ _ _ _ own done => FoundOwn.addExternal own done)
      (show FoundOwn ([], tokens) from second) third
  have known : ∀ name ∈ [] ++ (grammar.numberedRules start).map (·.1), name ∈ beforeAliases.ids :=
    foldlM_reaches (fun names numbering => ∀ name ∈ names, name ∈ numbering.ids)
      (fun _ _ _ _ known done => addRule_known known done) (List.forall_mem_nil _) fourth
  have fourth : beforeAliases.NamesOwn :=
    foldlM_keeps (fun _ _ _ _ own done => own.addRule done) third fourth
  have ids : after.ids = beforeAliases.ids :=
    @foldlM_keeps _ _ _ (fun numbering : Numbering => numbering.ids = beforeAliases.ids) _ _
      (fun _ _ _ _ same done => (addAlias_ids done).trans same) _ _ rfl fifth
  refine ⟨foldlM_keeps (fun _ _ _ _ own done => own.addAlias done) fourth fifth, ?_⟩
  rw [ids]
  exact known

theorem numberedRules_distinct (root : grammar.startRule? = some start) :
    ((grammar.numberedRules start).map (·.1)).Nodup := by
  obtain ⟨others, names, ascending, apart⟩ := numberedRules_names root
  rw [names]
  exact List.nodup_cons.mpr ⟨apart, nodup_of_ascending ascending⟩

theorem mem_ruleUses {entry : String × Rule} {use : TokenUse} :
    use ∈ ruleUses entry ↔
      (∃ body immediate, entry.2.lexicalBody? = some (body, immediate)
          ∧ use = .rule entry.1 body immediate)
        ∨ (entry.2.lexicalBody? = none ∧ ∃ token ∈ entry.2.inlineTokens,
          use = .inside entry.1 token.tokenBody.1 token.tokenBody.2) := by
  rw [ruleUses]
  cases entry.2.lexicalBody? with
  | some found =>
      obtain ⟨body, immediate⟩ := found
      constructor
      · exact fun held => .inl ⟨body, immediate, rfl, List.mem_singleton.mp held⟩
      · rintro (⟨_, _, ⟨⟩, rfl⟩ | ⟨none, _⟩)
        · exact List.mem_singleton_self _
        · cases none
  | none => simp [eq_comm]

theorem mem_extraUses {extra : Rule} {use : TokenUse} :
    use ∈ extraUses extra ↔
      extra.isSymbol = false ∧ use = .inside "extras" extra.tokenBody.1 extra.tokenBody.2 := by
  rw [extraUses]
  cases extra.isSymbol <;> simp

/-- The bodies of tokens are those at the places where tokens are used. -/
theorem tokenBody_iff (grammar : Grammar) (start : String) (body : Rule) :
    grammar.TokenBody body ↔ ∃ use ∈ grammar.tokenUses start, use.body = body := by
  simp only [tokenUses, List.mem_append, List.mem_flatMap, mem_numberedRules, mem_ruleUses,
    mem_extraUses]
  constructor
  · rintro (⟨found, lexical⟩ | ⟨found, inner, held⟩ | ⟨found, token⟩)
    · have entry := Std.ExtTreeMap.mem_toList_iff_getElem?_eq_some.mpr found
      exact ⟨_, .inl ⟨_, entry, .inl ⟨_, _, lexical, rfl⟩⟩, rfl⟩
    · have entry := Std.ExtTreeMap.mem_toList_iff_getElem?_eq_some.mpr found
      exact ⟨_, .inl ⟨_, entry, .inr ⟨inner, _, held, rfl⟩⟩, rfl⟩
    · exact ⟨_, .inr ⟨_, found, token, rfl⟩, rfl⟩
  · rintro ⟨use, ⟨⟨name, rule⟩, entry, ⟨_, _, lexical, rfl⟩ | ⟨inner, token, held, rfl⟩⟩ |
      ⟨extra, found, token, rfl⟩, rfl⟩
    · exact .rule (Std.ExtTreeMap.mem_toList_iff_getElem?_eq_some.mp entry) lexical
    · exact .inside (Std.ExtTreeMap.mem_toList_iff_getElem?_eq_some.mp entry) inner held
    · exact .extra found token

theorem isSymbolFree_of_literal {body : Rule} {text : String} (literal : body.stringText? = some text) :
    body.IsSymbolFree := by
  rw [Rule.stringText?] at literal
  split at literal
  · rename_i kind
    rw [Rule.isSymbolFree_iff, kind]
    exact ⟨nofun, nofun, nofun⟩
  · cases literal

/-- All tokens can be made exactly if no body has a reference in it and all patterns compile. -/
theorem usable_iff (grammar : Grammar) (start : String) :
    (∀ use ∈ grammar.tokenUses start, use.IsUsable) ↔
      (∀ body, grammar.TokenBody body → body.IsSymbolFree)
        ∧ ∀ body, grammar.TokenBody body → body.stringText? = none →
          ∀ source, body.tokenSource = .ok source →
            (Matcher.ofPattern? .standard source).isSome = true := by
  constructor
  · intro usable
    constructor
    · intro body token
      obtain ⟨use, held, rfl⟩ := (tokenBody_iff grammar start body).mp token
      cases literal : use.body.stringText? with
      | some text => exact isSymbolFree_of_literal literal
      | none =>
          obtain ⟨source, made, _⟩ := TokenUse.isUsable_iff.mp (usable use held) literal
          exact (Rule.tokenSource_ok_iff _).mp ⟨source, made⟩
    · intro body token pattern source made
      obtain ⟨use, held, rfl⟩ := (tokenBody_iff grammar start body).mp token
      obtain ⟨other, same, compiles⟩ := TokenUse.isUsable_iff.mp (usable use held) pattern
      rw [made, Except.ok.injEq] at same
      rw [same]
      exact compiles
  · rintro ⟨free, compiles⟩ use held
    rw [TokenUse.isUsable_iff]
    intro pattern
    have token := (tokenBody_iff grammar start use.body).mpr ⟨use, held, rfl⟩
    obtain ⟨source, made⟩ := (Rule.tokenSource_ok_iff _).mpr (free use.body token)
    exact ⟨source, made, compiles use.body token pattern source made⟩

end Grammar

namespace Language
variable {grammar : Grammar} {options : LoadOptions} {language : Language}

/-- Every number in the language's tables is that of the symbol it was made for, and 16 bits are enough
for all of them. -/
structure NumbersFit (grammar : Grammar) (language : Language) : Prop where
  room : language.symbolCount ≤ 65536
  /-- The tokens and the external tokens have the numbers behind the first, each its own. -/
  tokens : language.tokens.toList.map (·.symbol) ++ language.externals =
    List.range' 1 (language.tokenCount + language.externalCount)
  tokensInside : language.tokenCount + language.externalCount < language.symbolCount
  extras : ∀ id ∈ language.extras, id < language.symbolCount
  start : language.symbolName? language.startSymbol = grammar.startRule?
  word : ∀ id, language.wordToken = some id → language.symbolName? id = grammar.word
  supertypes : ∀ id ∈ language.supertypes,
    ∃ name ∈ grammar.supertypeNames, language.symbolName? id = some name

/-- The tokens of a numbering and its external tokens have the numbers behind the first. -/
theorem token_numbers {names : List String} {numbered : NumberedGrammar}
    {terminals externals nonterminals aliases : List Symbol}
    (blocks : numbered.Blocks names terminals externals nonterminals aliases) :
    numbered.numbering.tokens.toList.map (·.symbol) ++ numbered.externals =
      List.range' 1 (numbered.numbering.tokens.size + numbered.externals.length) := by
  have tokens : numbered.numbering.tokens.toList.map (·.symbol) =
      List.range' 1 numbered.numbering.tokens.size := by
    refine List.ext_getElem (by simp) fun index inside _ => ?_
    rw [List.length_map, Array.length_toList] at inside
    have symbol := blocks.tokenPlaces index _ (Array.getElem?_eq_getElem inside)
    simp [symbol, Nat.add_comm]
  rw [tokens, blocks.externalPlaces, List.length_range', List.range'_append_1]

theorem loads_iff : (∃ language, (load options grammar).1 = .ok language) ↔
    grammar.IsLoadable options.strict := by
  have verdict : (grammar.check options.strict).1 = .ok () ↔ grammar.defect? options.strict = none := by
    rw [Grammar.check]
    cases grammar.defect? options.strict <;> simp
  have some : 0 < symbolRoom := by decide
  simp only [load, loadWithin_eq_ok]
  constructor
  · rintro ⟨language, sound, start, numbered, root, made, rfl⟩
    have distinct := Grammar.numberedRules_distinct root
    obtain ⟨usable, fits⟩ := (Grammar.number_ok_iff some distinct).mp ⟨numbered, made⟩
    obtain ⟨free, compiles⟩ := (Grammar.usable_iff grammar start).mp usable
    exact ⟨verdict.mpr sound, free, compiles, by rw [Grammar.symbolTable, root]; exact fits⟩
  · rintro ⟨sound, free, compiles, fits⟩
    -- The table is counted from the start rule, which a grammar without defects has.
    have sound := verdict.mp sound
    obtain ⟨start, root⟩ := Grammar.startRule?_isSome sound
    rw [Grammar.symbolTable, root] at fits
    have usable := (Grammar.usable_iff grammar start).mpr ⟨free, compiles⟩
    have distinct := Grammar.numberedRules_distinct root
    obtain ⟨numbered, made⟩ := (Grammar.number_ok_iff some distinct).mpr ⟨usable, fits⟩
    exact ⟨_, sound, start, numbered, root, made, rfl⟩

theorem symbols_eq (done : (load options grammar).1 = .ok language) :
    language.symbols.toList = grammar.symbolTable ∧ language.symbolCount ≤ 65536 := by
  rw [load, loadWithin_eq_ok] at done
  obtain ⟨_, start, numbered, root, made, rfl⟩ := done
  obtain ⟨_, fits, symbols⟩ :=
    Grammar.number_table (by decide) (Grammar.numberedRules_distinct root) made
  constructor
  · rw [Grammar.symbolTable, root]
    exact symbols
  · rw [symbolCount, ← Array.length_toList]
    exact le_of_eq_of_le (congrArg List.length symbols) fits

theorem numbersFit (done : (load options grammar).1 = .ok language) : language.NumbersFit grammar := by
  have room := (symbols_eq done).2
  rw [load, loadWithin_eq_ok] at done
  obtain ⟨_, start, numbered, root, made, rfl⟩ := done
  obtain ⟨terminals, externals, nonterminals, aliases, blocks⟩ := Grammar.number_blocks made
  obtain ⟨own, known⟩ := Grammar.number_names made
  have named (name : String) (id : Nat) (found : numbered.numbering.ids[name]? = some id) :
      (ofNumbered grammar start numbered options.version).symbolName? id = some name := by
    obtain ⟨symbol, here, rfl⟩ := own name id found
    exact congrArg (Option.map (·.name)) here
  constructor
  case room => exact room
  case tokens => exact token_numbers blocks
  case tokensInside =>
    change numbered.numbering.tokens.size + numbered.externals.length < numbered.numbering.symbols.size
    rw [← @Array.length_toList _ numbered.numbering.symbols, blocks.symbols,
      blocks.externalPlaces, List.length_range']
    simp only [List.length_cons, List.length_append, blocks.tokenCount]
    omega
  case extras => exact blocks.extras
  case start =>
    obtain ⟨others, names, _⟩ := Grammar.numberedRules_names root
    have member := known start (by rw [names]; exact List.mem_cons_self)
    obtain ⟨id, found⟩ := Option.isSome_iff_exists.mp (Std.TreeMap.mem_iff_isSome_getElem?.mp member)
    rw [root, ← named start id found]
    change _ = (ofNumbered grammar start numbered options.version).symbolName? id
    rw [ofNumbered]
    simp only [found, Option.getD_some]
  case word =>
    intro id found
    obtain ⟨name, word, resolved⟩ := Option.bind_eq_some_iff.mp found
    rw [word]
    exact named name id resolved
  case supertypes =>
    intro id found
    obtain ⟨name, held, resolved⟩ := List.mem_filterMap.mp (mem_ascending.mp found)
    exact ⟨name, held, named name id resolved⟩

/-- A grammar loads exactly if it has no defect, no token of it has a reference in it, all patterns of
tokens compile and there is room for the table it needs. This table is what it gets, and the options
leave no other trace in it than the version. -/
theorem load_exact (options : LoadOptions) (grammar : Grammar) :
    ((∃ language, (load options grammar).1 = .ok language) ↔ grammar.IsLoadable options.strict)
      ∧ ∀ language, (load options grammar).1 = .ok language →
          language.symbols.toList = grammar.symbolTable
            ∧ language.NumbersFit grammar
            ∧ ∀ (other : LoadOptions) (again : Language), (load other grammar).1 = .ok again →
                again = { language with version := other.version } := by
  refine ⟨loads_iff, fun language done => ⟨(symbols_eq done).1, numbersFit done, ?_⟩⟩
  intro other again repeated
  rw [load, loadWithin_eq_ok] at done repeated
  obtain ⟨_, start, numbered, root, made, rfl⟩ := done
  obtain ⟨_, start', numbered', root', made', rfl⟩ := repeated
  rw [root, Option.some.injEq] at root'
  subst root'
  rw [made, Except.ok.injEq] at made'
  subst made'
  rfl

/-- The sums of two digits load with the table they need, whatever the options. -/
theorem load_exact_sum :
    sumGrammar.IsLoadable false
      ∧ ∃ language, (load {} sumGrammar).1 = .ok language
          ∧ language.symbols.toList.map (·.name) =
            ["end", "+", "digit", " ", "indent", "sum", "summand", "rest"]
          ∧ sumGrammar.symbolTable = language.symbols.toList
          ∧ ∀ again, (load { strict := true, version := 14 } sumGrammar).1 = .ok again →
              again = { language with version := 14 } := by
  obtain ⟨language, done, names⟩ : ∃ language, (load {} sumGrammar).1 = .ok language
      ∧ language.symbols.toList.map (·.name) =
        ["end", "+", "digit", " ", "indent", "sum", "summand", "rest"] := by decide +kernel
  obtain ⟨accepted, result⟩ := load_exact {} sumGrammar
  obtain ⟨table, _, options⟩ := result language done
  exact ⟨accepted.mp ⟨language, done⟩, language, done, names, table.symm, options _⟩

end Language

end Treegram
