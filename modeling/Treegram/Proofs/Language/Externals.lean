import Treegram.Proofs.Language.Contents

/-!
The external tokens of a language. A scanner names one by its place in the list of a language, and
these are the places in the list of a grammar as long as every entry declares a token. An entry that
declares none is left out, and the places behind it are counted without it.
-/

namespace Treegram

/-- References and literals declare external tokens. -/
def Rule.declaresToken (external : Rule) : Bool :=
  external.kind == .symbol || external.kind == .string

theorem Rule.declaresToken_iff {external : Rule} :
    external.declaresToken = true ↔ external.kind = .symbol ∨ external.kind = .string := by
  rw [declaresToken, Bool.or_eq_true, beq_iff_eq, beq_iff_eq]

/-- The symbol is the one that the entry declares. -/
def Symbol.IsDeclaredBy (symbol : Symbol) (external : Rule) : Prop :=
  ∃ name, Grammar.externalName? external = some name ∧ symbol = .external name external.isSymbol

/-- An entry with all its parts has a symbol exactly if it declares a token. -/
theorem externalSymbol_isSome {external : Rule} (complete : external.IsComplete) :
    (externalSymbol? external).isSome = external.declaresToken := by
  have name : external.kind = .symbol → external.name ≠ none :=
    fun kind missing => complete .symbolName ⟨kind, missing⟩
  have text : external.kind = .string → external.text? ≠ none :=
    fun kind missing => complete .stringValue ⟨.inl kind, missing⟩
  rw [externalSymbol?, Option.isSome_map, Grammar.externalName?, Option.isSome_or, Rule.symbolName?,
    Rule.stringText?, Rule.isSymbol, Rule.declaresToken]
  by_cases symbol : external.kind = .symbol
  · simp [symbol, Option.isSome_iff_ne_none, name symbol]
  by_cases string : external.kind = .string
  · simp [string, Option.isSome_iff_ne_none, text string]
  · simp [symbol, string]

/-- What is made of some items is in the places of those that something is made of. -/
theorem getElem_filterMap_filter {α β : Type} {make : α → Option β} {items : List α} {index : Nat}
    {item : α} (here : (items.filter fun item => (make item).isSome)[index]? = some item) :
    (items.filterMap make)[index]? = make item := by
  induction items generalizing index with
  | nil => simp at here
  | cons first rest ih =>
      cases made : make first with
      | none =>
          rw [List.filterMap_cons_none made]
          rw [List.filter_cons_of_neg (by simp [made])] at here
          exact ih here
      | some result =>
          rw [List.filterMap_cons_some made]
          rw [List.filter_cons_of_pos (by simp [made])] at here
          cases index with
          | zero =>
              rw [List.getElem?_cons_zero, Option.some.injEq] at here
              rw [List.getElem?_cons_zero, ← here, made]
          | succ index => exact ih here

namespace Grammar
variable {grammar : Grammar}

theorem IsComplete.external (complete : grammar.IsComplete) {external : Rule}
    (held : external ∈ grammar.externalRules) : external.IsComplete :=
  complete "externals" external (.external held) external (.self external)

theorem IsComplete.declared (complete : grammar.IsComplete) :
    grammar.externalRules.filter (·.declaresToken) =
      grammar.externalRules.filter fun external => (externalSymbol? external).isSome :=
  List.filter_congr fun _ held => (externalSymbol_isSome (complete.external held)).symm

end Grammar

namespace Language

/-- The token in this place of the externals is the one that the entry declares. -/
def DeclaresAt (language : Language) (index : Nat) (external : Rule) : Prop :=
  ∃ id symbol, language.externals[index]? = some id ∧ language.symbol? id = some symbol
    ∧ symbol.IsDeclaredBy external

variable {options : LoadOptions} {grammar : Grammar} {language : Language}

/-- The external tokens are those of the entries that declare one, in the order of the entries. -/
theorem externals_declared (done : (load options grammar).1 = .ok language) :
    language.externalCount = (grammar.externalRules.filter (·.declaresToken)).length
      ∧ ∀ (index : Nat) (external : Rule),
          (grammar.externalRules.filter (·.declaresToken))[index]? = some external →
          language.DeclaresAt index external := by
  obtain ⟨sound, start, numbered, _, _, rfl, table⟩ := load_contents done
  have count : (ofNumbered grammar start numbered options.version).externalCount =
      (grammar.externalRules.filterMap externalSymbol?).length := by
    rw [externalCount, ofNumbered, table.externalPlaces, List.length_range']
  rw [sound.complete.declared]
  refine ⟨by rw [count, List.length_filterMap_eq_countP, List.countP_eq_length_filter], ?_⟩
  intro index external here
  have symbol := getElem_filterMap_filter here
  obtain ⟨declared, made⟩ :=
    Option.isSome_iff_exists.mp (List.mem_filter.mp (List.mem_of_getElem? here)).2
  rw [made] at symbol
  have inside := (List.getElem?_eq_some_iff.mp symbol).1
  obtain ⟨name, named, rfl⟩ := externalSymbol_eq_some.mp made
  refine ⟨1 + numbered.numbering.tokens.size + index, _, ?_, ?_, name, named, rfl⟩
  · rw [ofNumbered, table.externalPlaces, List.getElem?_range' inside, Nat.one_mul]
  · -- The external tokens stand behind the end of the input and the other tokens.
    have place : 1 + numbered.numbering.tokens.size + index =
        (TokenUse.table (grammar.tokenUses start)).length + index + 1 := by
      rw [table.tokenCount]
      omega
    change numbered.numbering.symbols[_]? = _
    rw [← Array.getElem?_toList, table.symbols, place, List.getElem?_cons_succ,
      List.getElem?_append_right (Nat.le_add_right _ _), Nat.add_sub_cancel_left,
      List.getElem?_append_left inside, symbol]

/-- As long as the entries of the externals declare tokens, an entry and its token have the same place,
and the counts agree exactly if all entries declare one. -/
theorem load_externals (done : (load options grammar).1 = .ok language) :
    (language.externalCount = grammar.externalRules.length ↔
        ∀ external ∈ grammar.externalRules, external.kind = .symbol ∨ external.kind = .string)
      ∧ ∀ (index : Nat) (external : Rule), grammar.externalRules[index]? = some external →
          (∀ earlier ∈ grammar.externalRules.take (index + 1),
            earlier.kind = .symbol ∨ earlier.kind = .string) →
          language.DeclaresAt index external := by
  obtain ⟨count, tokens⟩ := externals_declared done
  simp only [← Rule.declaresToken_iff]
  constructor
  · rw [count, List.length_filter_eq_length_iff]
  · intro index external here declared
    refine tokens index external ?_
    -- Nothing is left out in front of the entry.
    have inside := (List.getElem?_eq_some_iff.mp here).1
    rw [← List.take_append_drop (index + 1) grammar.externalRules, List.filter_append,
      List.filter_eq_self.mpr declared,
      List.getElem?_append_left (by rw [List.length_take]; omega),
      List.getElem?_take_of_lt (Nat.lt_succ_self index), here]

/-- Two external tokens, a named and a nameless one. -/
def markGrammar : Grammar where
  name := "marks"
  rules := Std.ExtTreeMap.ofList [("item", Rule.seq [.symbol "mark", .string "y"])]
  externals := some [.symbol "mark", .string "!"]

theorem load_externals_marks :
    ∃ language, (load {} markGrammar).1 = .ok language ∧ language.externalCount = 2
      ∧ language.DeclaresAt 1 (.string "!") := by
  obtain ⟨language, done⟩ : ∃ language, (load {} markGrammar).1 = .ok language := by decide +kernel
  obtain ⟨count, places⟩ := load_externals done
  have declared : ∀ external ∈ markGrammar.externalRules,
      external.kind = .symbol ∨ external.kind = .string := by decide +kernel
  exact ⟨language, done, count.mpr declared, places 1 (.string "!") rfl declared⟩

/-- A pattern among the externals declares nothing, and the token behind it takes its place. -/
def skippedGrammar : Grammar := { markGrammar with externals := some [.pattern "x", .symbol "mark"] }

theorem load_externals_skipped :
    ∃ language, (load {} skippedGrammar).1 = .ok language
      ∧ skippedGrammar.externalRules.length = 2 ∧ language.externalCount = 1
      ∧ language.externals[1]? = none
      ∧ language.externals[0]?.bind language.symbolName? = some "mark" := by
  decide +kernel

end Language

end Treegram
