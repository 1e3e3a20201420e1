import Treegram.Proofs.Language.Moves

/-!
Supertypes. A language lists their numbers and marks their symbols. Whatever is marked is listed, but
only rules that are no tokens have symbols that can be marked, so the two agree just if every supertype
is such a rule.
-/

namespace Treegram

namespace Grammar
variable {grammar : Grammar} {start : String} {numbered : NumberedGrammar}

/-- A rule that is no token, and that no external token is called like. -/
def IsSyntactic (grammar : Grammar) (name : String) : Prop :=
  ∃ rule, grammar.rules[name]? = some rule ∧ rule.lexicalBody? = none ∧ name ∉ grammar.externalNames

theorem mem_ruleSymbols_syntactic {symbol : Symbol} :
    symbol ∈ grammar.ruleSymbols start ↔ ∃ name, grammar.IsSyntactic name
      ∧ Numbering.ruleSymbol grammar.supertypeNames.contains name = symbol := by
  have free (name : String) :
      (name ∈ (grammar.numberedRules start).map (·.1) ∧ name ∉ grammar.takenNames) ↔
        grammar.IsSyntactic name := by
    rw [mem_numberedNames, mem_takenNames start, mem_lexicalNames, IsSyntactic, not_or]
    cases grammar.rules[name]? with
    | none => simp
    | some rule => simp
  rw [mem_ruleSymbols]
  exact exists_congr fun name => by rw [← and_assoc, free]

namespace HasTable

/-- The nonterminals are the symbols of the rules that are no tokens. -/
theorem nonterminal_iff (table : grammar.HasTable start numbered) {symbol : Symbol} :
    (symbol ∈ numbered.numbering.symbols ∧ symbol.kind = .nonterminal) ↔
      ∃ name, grammar.IsSyntactic name
        ∧ Numbering.ruleSymbol grammar.supertypeNames.contains name = symbol := by
  have nonterminals : numbered.numbering.symbols.toList.filter (·.kind = .nonterminal)
      = grammar.ruleSymbols start := by
    rw [table.symbols]
    exact filter_parts table.terminalKind table.externalKind table.nonterminalKind table.aliasedKind
      .nonterminal
  rw [← mem_ruleSymbols_syntactic, ← nonterminals, List.mem_filter, decide_eq_true_eq,
    Array.mem_toList_iff]

/-- A nonterminal is marked if it is called like a supertype. -/
theorem nonterminal_marked (table : grammar.HasTable start numbered) {symbol : Symbol}
    (held : symbol ∈ numbered.numbering.symbols) (kind : symbol.kind = .nonterminal) :
    symbol.isRule = true ∧ grammar.IsSyntactic symbol.name
      ∧ (symbol.supertype = true ↔ symbol.name ∈ grammar.supertypeNames) := by
  obtain ⟨name, syntactic, rfl⟩ := table.nonterminal_iff.mp ⟨held, kind⟩
  exact ⟨rfl, syntactic, List.contains_iff_mem⟩

end HasTable

/-- A name leads to a nonterminal just if it is one of a rule that is no token. -/
theorem number_syntactic (root : grammar.startRule? = some start)
    (done : grammar.number symbolRoom start = .ok numbered) {name : String} {id : Nat}
    (found : numbered.numbering.ids[name]? = some id) :
    (numbered.numbering.symbols[id]?.map (·.kind) = some .nonterminal) ↔ grammar.IsSyntactic name := by
  have table := number_contents (by decide) (numberedRules_distinct root) done
  rw [Option.map_eq_some_iff]
  constructor
  · rintro ⟨symbol, here, kind⟩
    obtain ⟨other, there, rfl, _⟩ := number_namesLead done name id found
    obtain rfl := Option.some.inj (here.symm.trans there)
    exact (table.nonterminal_marked (Array.mem_of_getElem? here) kind).2.1
  · intro syntactic
    -- Such a rule has a nonterminal somewhere, and its name leads to the symbol of the rule.
    obtain ⟨held, kind⟩ := table.nonterminal_iff.mpr ⟨name, syntactic, rfl⟩
    obtain ⟨other, here⟩ := List.mem_iff_getElem?.mp (Array.mem_toList_iff.mpr held)
    obtain rfl := Option.some.inj (found.symm.trans (number_ofRule root done here rfl))
    exact ⟨_, Array.getElem?_toList ▸ here, kind⟩

/-- The marked symbols are the nonterminals that the name of a supertype leads to. -/
theorem number_marked (root : grammar.startRule? = some start)
    (done : grammar.number symbolRoom start = .ok numbered) {id : Nat} :
    numbered.numbering.symbols[id]?.any (·.supertype) = true ↔
      (∃ name ∈ grammar.supertypeNames, numbered.numbering.ids[name]? = some id)
        ∧ numbered.numbering.symbols[id]?.map (·.kind) = some .nonterminal := by
  have table := number_contents (by decide) (numberedRules_distinct root) done
  rw [Option.any_eq_true, Option.map_eq_some_iff]
  constructor
  · rintro ⟨symbol, here, marks⟩
    have held := Array.mem_of_getElem? here
    have kind := Numbering.supertypes_moves (number_moves done) (by decide) symbol held marks
    obtain ⟨rule, _, declared⟩ := table.nonterminal_marked held kind
    have found := number_ofRule root done (Array.getElem?_toList ▸ here) rule
    exact ⟨⟨symbol.name, declared.mp marks, found⟩, symbol, here, kind⟩
  · rintro ⟨⟨name, declared, found⟩, symbol, here, kind⟩
    -- What the name leads to is called like that, so the mark goes by the same name.
    obtain ⟨other, there, rfl, _⟩ := number_namesLead done name id found
    obtain rfl := Option.some.inj (here.symm.trans there)
    have held := Array.mem_of_getElem? here
    exact ⟨symbol, here, (table.nonterminal_marked held kind).2.2.mpr declared⟩

end Grammar

namespace Language
variable {options : LoadOptions} {grammar : Grammar} {language : Language}

/-- The symbols that are marked are the nonterminals among those that are listed. That is all of them
just if every supertype is a rule that is no token, and that no external token is called like. -/
theorem load_supertypes (done : (load options grammar).1 = .ok language) :
    (∀ id, language.isSupertype id = true ↔
        id ∈ language.supertypes ∧ language.symbolKind? id = some .nonterminal)
      ∧ ((∀ id, language.isSupertype id = true ↔ id ∈ language.supertypes) ↔
        ∀ name ∈ grammar.supertypeNames, grammar.IsSyntactic name) := by
  obtain ⟨sound, start, numbered, root, made, rfl, _⟩ := load_contents done
  generalize view : ofNumbered grammar start numbered options.version = language
  have symbol (id : Nat) : language.symbol? id = numbered.numbering.symbols[id]? := by rw [← view]; rfl
  have listed (id : Nat) : id ∈ language.supertypes ↔
      ∃ name ∈ grammar.supertypeNames, numbered.numbering.ids[name]? = some id := by
    rw [← view]
    exact mem_supertypes
  have syntactic {name : String} {id : Nat} (found : numbered.numbering.ids[name]? = some id) :
      language.symbolKind? id = some .nonterminal ↔ grammar.IsSyntactic name := by
    rw [symbolKind?, symbol]
    exact Grammar.number_syntactic root made found
  have marked (id : Nat) : language.isSupertype id = true ↔
      id ∈ language.supertypes ∧ language.symbolKind? id = some .nonterminal := by
    rw [isSupertype, symbolKind?, symbol, listed]
    exact Grammar.number_marked root made
  refine ⟨marked, fun agree name declared => ?_, fun all id => ?_⟩
  · obtain ⟨id, found⟩ := Grammar.number_defines made (.inl (sound.supertypes name declared))
    have own := (agree id).mpr ((listed id).mpr ⟨name, declared, found⟩)
    exact (syntactic found).mp ((marked id).mp own).2
  · refine (marked id).trans (and_iff_left_of_imp fun held => ?_)
    obtain ⟨name, declared, found⟩ := (listed id).mp held
    exact (syntactic found).mpr (all name declared)

theorem load_supertypes_sum :
    ∃ language, (load {} sumGrammar).1 = .ok language
      ∧ ∀ id, language.isSupertype id = true ↔ id ∈ language.supertypes := by
  obtain ⟨language, done⟩ := sumGrammar_loads
  refine ⟨language, done, (load_supertypes done).2.mpr fun name declared => ?_⟩
  obtain rfl := List.mem_singleton.mp declared
  have rule : (sumGrammar.rules["summand"]?.any (·.lexicalBody?.isNone)) = true := by decide +kernel
  obtain ⟨rule, found, other⟩ := (Option.any_eq_true _ _).mp rule
  exact ⟨rule, found, Option.isNone_iff_eq_none.mp other, by decide +kernel⟩

/-- A supertype that is a token. -/
def numeralGrammar : Grammar where
  name := "numeral"
  rules := Std.ExtTreeMap.ofList
    [("line", Rule.seq [.symbol "numeral", .string ";"]), ("numeral", Rule.pattern "[0-9]+")]
  supertypes := some ["numeral"]

/-- The token is listed, but it is not marked. -/
theorem load_supertypes_numeral :
    ∃ language, (load {} numeralGrammar).1 = .ok language
      ∧ language.symbol? 2 = some (.ofRule "numeral" .terminal)
      ∧ 2 ∈ language.supertypes ∧ language.isSupertype 2 = false := by
  decide +kernel

end Language

end Treegram
