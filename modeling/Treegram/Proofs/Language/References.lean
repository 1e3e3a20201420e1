import Mathlib.Logic.ExistsUnique
import Treegram.Proofs.Language.Moves

/-!
What a grammar declares by name. None of it gets lost in a language: each entry of the extras has a
number of its own, the word has one if there is a word, every supertype has one, and so has the start
rule.
-/

namespace Treegram

open Relation (ReflTransGen)

/-! ## The extras -/

namespace Numbering
variable {room : Nat} {numbering : Numbering}

/-- The number is one of a token for the entry of the extras. -/
def HasToken (numbering : Numbering) (extra : Rule) (id : Nat) : Prop :=
  ∃ token ∈ numbering.tokens, token.symbol = id
    ∧ (TokenUse.inside "extras" extra.tokenBody.1 extra.tokenBody.2).IsMade token

/-- What is noted down for an entry of the extras until all symbols have their numbers. -/
def ExtraRef.IsFor (numbering : Numbering) (extra : Rule) : ExtraRef → Prop
  | .name spelling => extra.isSymbol = true ∧ spelling = extra.name.getD ""
  | .id number => extra.isSymbol = false ∧ numbering.HasToken extra number

theorem ExtraRef.IsFor.moves {extra : Rule} {reference : ExtraRef} {after : Numbering}
    (noted : reference.IsFor numbering extra) (run : ReflTransGen Move numbering after) :
    reference.IsFor after extra := by
  cases reference with
  | name spelling => exact noted
  | id number =>
      obtain ⟨other, token, held, made⟩ := noted
      exact ⟨other, token, mem_tokens_moves run held, made⟩

/-- The entries of the extras have one note each, and the tokens are still shared. -/
structure ExtrasNoted (extras : List Rule) (found : List ExtraRef × Numbering) : Prop where
  shares : found.2.SharesTokens
  noted : List.Forall₂ (fun extra reference => reference.IsFor found.2 extra) extras found.1.reverse

theorem ExtrasNoted.addExtra {extras : List Rule} {extra : Rule}
    {found after : List ExtraRef × Numbering} (before : ExtrasNoted extras found)
    (done : Numbering.addExtra room found extra = .ok after) : ExtrasNoted (extras ++ [extra]) after := by
  have run := addExtra_moves done
  have earlier := before.noted.imp fun _ _ noted => ExtraRef.IsFor.moves noted run
  have noted : ∀ reference, after.1 = reference :: found.1 → reference.IsFor after.2 extra →
      List.Forall₂ (fun extra reference => reference.IsFor after.2 extra) (extras ++ [extra])
        after.1.reverse := by
    intro reference first own
    rw [first, List.reverse_cons]
    exact List.rel_append earlier (.cons own .nil)
  refine ⟨sharesTokens_moves run before.shares, ?_⟩
  rw [addExtra_eq_ok] at done
  rcases done with ⟨symbol, rfl⟩ | ⟨other, id, next, added, rfl⟩
  · exact noted _ rfl ⟨symbol, rfl⟩
  · exact noted _ rfl ⟨other, addInline_token before.shares added⟩

end Numbering

namespace Grammar
variable {grammar : Grammar} {start : String} {room : Nat} {numbered : NumberedGrammar}

open Treegram.Numbering

/-- The number that an entry of the extras has in the end. -/
def ExtraHas (numbering : Numbering) (extra : Rule) (id : Nat) : Prop :=
  (extra.isSymbol = true ∧ ∃ name, extra.name = some name ∧ numbering.ids[name]? = some id)
    ∨ (extra.isSymbol = false ∧ numbering.HasToken extra id)

/-- If each note leads to a number, none of them is left out. -/
theorem forall₂_filterMap {α β γ : Type} {R : α → β → Prop} {S : α → γ → Prop} {f : β → Option γ}
    {items : List α} {notes : List β} (noted : List.Forall₂ R items notes)
    (leads : ∀ item ∈ items, ∀ note, R item note → ∃ result, f note = some result ∧ S item result) :
    List.Forall₂ S items (notes.filterMap f) := by
  induction noted with
  | nil => exact .nil
  | cons own _ ih =>
      obtain ⟨result, made, holds⟩ := leads _ List.mem_cons_self _ own
      rw [List.filterMap_cons_some made]
      exact .cons holds (ih fun item held => leads item (List.mem_cons_of_mem _ held))

theorem number_extras (sound : grammar.IsSound) (done : grammar.number room start = .ok numbered) :
    List.Forall₂ (ExtraHas numbered.numbering) grammar.extraRules numbered.extras := by
  have defines := fun name => @number_defines grammar start room numbered done name
  rw [number_eq_ok] at done
  obtain ⟨ruleTokens, references, tokens, externals, beforeRules, beforeAliases, after, first, second,
    third, fourth, fifth, rfl⟩ := done
  have shares : ruleTokens.SharesTokens := by
    refine sharesTokens_moves (foldlM_moves id (fun _ _ _ done => addRuleTokens_moves done) first) ?_
    exact ⟨fun text immediate id found => by simp at found,
      fun source immediate id found => by simp at found⟩
  -- Names are only noted while the extras are numbered, and looked up when all is done.
  obtain ⟨_, noted⟩ : ExtrasNoted ([] ++ grammar.extraRules) (references, tokens) :=
    foldlM_reaches ExtrasNoted (fun _ _ _ _ before done => before.addExtra done) ⟨shares, .nil⟩ second
  have third : ReflTransGen Move tokens beforeRules :=
    foldlM_moves (·.2) (fun _ _ _ done => addExternal_moves done) third
  refine forall₂_filterMap noted fun extra held reference own => ?_
  have own := own.moves (third.trans (rules_moves fourth fifth))
  cases reference with
  | id number => exact ⟨number, rfl, .inr own⟩
  | name spelling =>
      obtain ⟨symbol, rfl⟩ := own
      have kind : extra.kind = .symbol := beq_iff_eq.mp symbol
      have complete := sound.complete "extras" extra (.used (.extra held)) extra (.self extra)
      obtain ⟨name, named⟩ := Option.ne_none_iff_exists'.mp fun none =>
        complete .symbolName ⟨kind, none⟩
      obtain ⟨id, found⟩ := defines name
        (sound.closed "extras" extra (.extra held) extra (.self extra) kind name named)
      rw [named, Option.getD_some]
      exact ⟨id, found, .inl ⟨symbol, name, named, found⟩⟩

end Grammar

namespace Language
variable {options : LoadOptions} {grammar : Grammar} {language : Language}

/-- The number is one of a symbol with this name, which a rule has given or an external token; if the
rule of this name has kept it, the symbol is the rule's. -/
def LeadsTo (grammar : Grammar) (language : Language) (name : String) (id : Nat) : Prop :=
  ∃ symbol, language.symbol? id = some symbol ∧ symbol.name = name
    ∧ (symbol.isRule = true ∨ symbol.kind = .external)
    ∧ (grammar.KeepsName name → symbol.isRule = true)

/-- The number is one of a terminal that has a token for the body of the entry. -/
def MatchesExtra (language : Language) (extra : Rule) (id : Nat) : Prop :=
  language.symbolKind? id = some .terminal ∧ ∃ token ∈ language.tokens, token.symbol = id
    ∧ tokenMatcher .standard "extras" extra.tokenBody.1 = .ok token.matcher
    ∧ token.immediate = extra.tokenBody.2

/-- All that a grammar declares by name has a number, going by one way to look names up. -/
structure KeepsReferences (grammar : Grammar) (id? : String → Option Nat) (language : Language) :
    Prop where
  leads : ∀ name id, id? name = some id → language.LeadsTo grammar name id
  /-- Each entry of the extras has a number, in their order. -/
  extras : List.Forall₂ (fun extra id =>
      (extra.kind = .symbol ∧ ∃ name, extra.name = some name ∧ id? name = some id)
        ∨ (extra.kind ≠ .symbol ∧ language.MatchesExtra extra id))
    grammar.extraRules language.extras
  noWord : grammar.word = none → language.wordToken = none
  word : ∀ name, grammar.word = some name →
    ∃ id, language.wordToken = some id ∧ id? name = some id
  ascending : language.supertypes.Pairwise (· < ·)
  supertypes : ∀ id, id ∈ language.supertypes ↔ ∃ name ∈ grammar.supertypeNames, id? name = some id
  supertype : ∀ name ∈ grammar.supertypeNames,
    ∃! id, id ∈ language.supertypes ∧ language.symbolName? id = some name
  start : ∃ name, grammar.startRule? = some name ∧ id? name = some language.startSymbol
  notStop : language.startSymbol ≠ 0

theorem LeadsTo.named {name : String} {id : Nat} (leads : language.LeadsTo grammar name id) :
    language.symbolName? id = some name := by
  obtain ⟨symbol, here, rfl, _⟩ := leads
  rw [symbolName?, here]
  rfl

/-- No declared reference is lost, and each has the number that its name leads to. -/
theorem load_references (done : (load options grammar).1 = .ok language) :
    ∃ start numbered, grammar.startRule? = some start
      ∧ grammar.number symbolRoom start = .ok numbered
      ∧ language.KeepsReferences grammar (numbered.numbering.ids[·]?) := by
  obtain ⟨sound, start, numbered, root, made, rfl, table⟩ := load_contents done
  refine ⟨start, numbered, root, made, ?_⟩
  have leads (name : String) (id : Nat) (found : numbered.numbering.ids[name]? = some id) :
      (ofNumbered grammar start numbered options.version).LeadsTo grammar name id := by
    obtain ⟨symbol, here, named, referable⟩ := Grammar.number_namesLead made name id found
    refine ⟨symbol, here, named, referable, fun keeps => ?_⟩
    obtain ⟨own, there, rule⟩ := Grammar.number_keepsName root made keeps found
    exact Option.some.inj (here.symm.trans there) ▸ rule
  have known (name : String) (rule : name ∈ grammar.rules) :
      ∃ id, numbered.numbering.ids[name]? = some id := Grammar.number_defines made (.inl rule)
  obtain ⟨first, begins⟩ := known start (Grammar.isRoot_of_start root).1
  have startSymbol : (ofNumbered grammar start numbered options.version).startSymbol = first := by
    rw [ofNumbered]
    simp only [begins, Option.getD_some]
  constructor
  case leads => exact leads
  case extras =>
    refine (Grammar.number_extras sound made).imp fun extra id has => ?_
    rcases has with ⟨symbol, named⟩ | ⟨other, token, held, numbers, own⟩
    · exact .inl ⟨beq_iff_eq.mp symbol, named⟩
    · refine .inr ⟨ne_of_beq_false other, ?_, token, held, numbers, own.matcher, own.immediate⟩
      rw [table.kind_terminal, table.token_iff]
      exact ⟨token, Array.mem_toList_iff.mpr held, numbers⟩
  case noWord =>
    intro none
    rw [ofNumbered, none]
    rfl
  case word =>
    intro name word
    obtain ⟨id, found⟩ := known name (sound.word name word)
    exact ⟨id, by rw [ofNumbered, word]; exact found, found⟩
  case ascending =>
    exact (ascending_pairwise _).imp Nat.compare_eq_lt.mp
  case supertypes => exact fun id => mem_supertypes
  case supertype =>
    intro name held
    obtain ⟨id, found⟩ := known name (sound.supertypes name held)
    refine ⟨id, ⟨mem_supertypes.mpr ⟨name, held, found⟩, (leads name id found).named⟩, ?_⟩
    rintro other ⟨listed, named⟩
    -- Another number with this name was looked up under the same name.
    obtain ⟨spelling, _, there⟩ := mem_supertypes.mp listed
    obtain rfl := Option.some.inj ((leads spelling other there).named.symm.trans named)
    exact Option.some.inj (there.symm.trans found)
  case start => exact ⟨start, root, by rw [startSymbol]; exact begins⟩
  case notStop =>
    obtain ⟨symbol, here, _, referable, _⟩ := leads start first begins
    rw [startSymbol]
    rintro rfl
    have stop : (ofNumbered grammar start numbered options.version).symbol? 0 = some .stop := by
      change numbered.numbering.symbols[0]? = _
      rw [← Array.getElem?_toList, table.symbols]
      rfl
    obtain rfl := Option.some.inj (here.symm.trans stop)
    rcases referable with rule | external
    · cases rule
    · cases external

/-- Extras of every kind, the last one shared with a rule, and a supertype that is declared twice. -/
def declaringGrammar : Grammar where
  name := "declaring"
  rules := Std.ExtTreeMap.ofList
    [("program", Rule.many (.symbol "statement")),
      ("statement", Rule.choice [.symbol "name", .string ";"]), ("name", Rule.pattern "[a-z]+")]
  extras := some [.pattern "[ ]", .symbol "newline", .string ";"]
  externals := some [.symbol "newline"]
  word := some "name"
  supertypes := some ["statement", "name", "statement"]

theorem load_references_declaring :
    ∃ language, (load {} declaringGrammar).1 = .ok language
      ∧ language.extras = [3, 4, 2] ∧ language.wordToken = some 1 ∧ language.supertypes = [1, 6]
      ∧ language.startSymbol = 5 ∧ ∃ id?, language.KeepsReferences declaringGrammar id? := by
  obtain ⟨language, done, extras, word, supertypes, start⟩ :
      ∃ language, (load {} declaringGrammar).1 = .ok language
        ∧ language.extras = [3, 4, 2] ∧ language.wordToken = some 1
        ∧ language.supertypes = [1, 6] ∧ language.startSymbol = 5 := by decide +kernel
  obtain ⟨_, _, _, _, keeps⟩ := load_references done
  exact ⟨language, done, extras, word, supertypes, start, _, keeps⟩

end Language

end Treegram
