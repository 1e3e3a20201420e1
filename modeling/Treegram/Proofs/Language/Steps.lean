import Treegram.Language.Load
import Treegram.Proofs.Grammar.Verdict

/-!
What each step of a numbering does when it does not fail. Every lemma here says all there
is to say of its step: when the step is possible, and the numbering it leads to.
-/

namespace Treegram

section Except
variable {ε α β : Type}

/-- Whether a result is no error can be told by looking at it. -/
instance decidableIsOk (result : Except ε α) : Decidable (∃ value, result = .ok value) :=
  match result with
  | .ok value => isTrue ⟨value, rfl⟩
  | .error _ => isFalse nofun

/-- So can whether it is a value with some property, if that can be told of a value. -/
instance decidableIsOkWith (result : Except ε α) (holds : α → Prop) [DecidablePred holds] :
    Decidable (∃ value, result = .ok value ∧ holds value) :=
  match result with
  | .ok value =>
      decidable_of_iff (holds value)
        ⟨fun held => ⟨value, rfl, held⟩, fun ⟨_, same, held⟩ => Except.ok.inj same ▸ held⟩
  | .error _ => isFalse nofun

theorem bind_eq_ok {first : Except ε α} {next : α → Except ε β} {result : β} :
    first >>= next = .ok result ↔ ∃ found, first = .ok found ∧ next found = .ok result := by
  cases first with
  | error _ => simp [bind, Except.bind]
  | ok found => simp [bind, Except.bind]

theorem map_eq_ok {first : Except ε α} {f : α → β} {result : β} :
    first.map f = .ok result ↔ ∃ found, first = .ok found ∧ f found = result := by
  cases first with
  | error _ => simp [Except.map]
  | ok found => simp [Except.map]

theorem pure_eq_ok {found result : α} : (pure found : Except ε α) = .ok result ↔ found = result :=
  Except.ok.injEq found result ▸ Iff.rfl

/-- What holds at first and outlasts every step holds in the end. -/
theorem foldlM_keeps {Holds : β → Prop} {step : β → α → Except ε β} {items : List α}
    (keeps : ∀ item ∈ items, ∀ before after, Holds before → step before item = .ok after →
      Holds after) {first last : β} (holds : Holds first)
    (done : items.foldlM step first = .ok last) : Holds last := by
  induction items generalizing first with
  | nil =>
      rw [List.foldlM_nil, pure_eq_ok] at done
      exact done ▸ holds
  | cons item rest ih =>
      rw [List.foldlM_cons, bind_eq_ok] at done
      obtain ⟨next, stepped, done⟩ := done
      have holds := keeps item List.mem_cons_self first next holds stepped
      exact ih (fun item found => keeps item (List.mem_cons_of_mem _ found)) holds done

/-- What is known of a state and the items behind it, when every step makes it known of one more. -/
theorem foldlM_reaches (Holds : List α → β → Prop) {step : β → α → Except ε β}
    (reaches : ∀ earlier item before after, Holds earlier before → step before item = .ok after →
      Holds (earlier ++ [item]) after) {items earlier : List α} {first last : β}
    (holds : Holds earlier first) (done : items.foldlM step first = .ok last) :
    Holds (earlier ++ items) last := by
  induction items generalizing earlier first with
  | nil =>
      rw [List.foldlM_nil, pure_eq_ok] at done
      rw [List.append_nil]
      exact done ▸ holds
  | cons item rest ih =>
      rw [List.foldlM_cons, bind_eq_ok] at done
      obtain ⟨next, stepped, done⟩ := done
      have holds := ih (reaches earlier item first next holds stepped) done
      rwa [List.append_assoc] at holds

end Except

namespace Numbering

variable {room : Nat} {numbering after : Numbering}

theorem reject_ne_ok {α : Type} {error : LoadError} {result : α} :
    numbering.reject error ≠ .ok result := by
  rw [reject]
  exact nofun

theorem require_eq_ok {α : Type} {answer : Except LoadError α} {result : α} :
    numbering.require answer = .ok result ↔ answer = .ok result := by
  cases answer with
  | error error => simp [require, reject]
  | ok found => simp [require]

theorem add_eq_ok {symbol : Symbol} :
    numbering.add room symbol = .ok after ↔
      numbering.next < room ∧ after = { numbering with symbols := numbering.symbols.push symbol } := by
  rw [add]
  split
  · rename_i fits
    rw [Except.ok.injEq, eq_comm]
    exact (and_iff_right fits).symm
  · rename_i full
    constructor
    · exact fun done => absurd done reject_ne_ok
    · exact fun fits => absurd fits.1 full

/-- The numbering with one more token and its symbol. -/
def withToken (symbol : Symbol) (matcher : Matcher) (immediate : Bool) (numbering : Numbering) :
    Numbering :=
  { numbering with
    symbols := numbering.symbols.push symbol
    tokens := numbering.tokens.push ⟨numbering.next, matcher, immediate⟩ }

theorem addLexicalRule_eq_ok {name : String} {body : Rule} {immediate : Bool} :
    numbering.addLexicalRule room name body immediate = .ok after ↔
      numbering.next < room ∧ ∃ matcher, tokenMatcher .standard name body = .ok matcher ∧
        after = (numbering.withToken (.ofRule name .terminal) matcher immediate).nameId name
          numbering.next := by
  simp only [addLexicalRule, bind_eq_ok, add_eq_ok, require_eq_ok, pure_eq_ok]
  constructor
  · rintro ⟨_, ⟨fits, rfl⟩, matcher, made, rfl⟩
    exact ⟨fits, matcher, made, rfl⟩
  · rintro ⟨fits, matcher, made, rfl⟩
    exact ⟨_, ⟨fits, rfl⟩, matcher, made, rfl⟩

theorem addLiteral_eq_ok {text : String} {immediate : Bool} {id : Nat} :
    numbering.addLiteral room text immediate = .ok (id, after) ↔
      (numbering.literalIds[(text, immediate)]? = some id ∧ after = numbering)
        ∨ (numbering.literalIds[(text, immediate)]? = none ∧ numbering.next < room
          ∧ id = numbering.next
          ∧ after = { numbering.withToken (.literal text) (.literal text) immediate with
              literalIds := numbering.literalIds.insert (text, immediate) numbering.next }) := by
  rw [addLiteral]
  split
  · rename_i known found
    simp [found, eq_comm]
  · rename_i unknown
    simp only [bind_eq_ok, add_eq_ok, pure_eq_ok, unknown, reduceCtorEq, false_and, false_or,
      true_and, Prod.mk.injEq]
    constructor
    · rintro ⟨_, ⟨fits, rfl⟩, rfl, rfl⟩
      exact ⟨fits, rfl, rfl⟩
    · rintro ⟨fits, rfl, rfl⟩
      exact ⟨_, ⟨fits, rfl⟩, rfl, rfl⟩

/-- The name of the next token that is named after a place. -/
def auxiliaryName (place : String) (numbering : Numbering) : String :=
  place ++ "_token" ++ toString (numbering.auxiliaryCounts.getD place 0 + 1)

theorem addAuxiliary_eq_ok {place : String} {body : Rule} {source : String} {immediate : Bool}
    {id : Nat} :
    numbering.addAuxiliary room place body source immediate = .ok (id, after) ↔
      (numbering.auxiliaryIds[(source, immediate)]? = some id ∧ after = numbering)
        ∨ (numbering.auxiliaryIds[(source, immediate)]? = none ∧ numbering.next < room
          ∧ id = numbering.next
          ∧ ∃ matcher, tokenMatcher .standard place body = .ok matcher
            ∧ after =
              { numbering.withToken (.auxiliary (numbering.auxiliaryName place)) matcher immediate with
                auxiliaryIds := numbering.auxiliaryIds.insert (source, immediate) numbering.next
                auxiliaryCounts :=
                  numbering.auxiliaryCounts.insert place (numbering.auxiliaryCounts.getD place 0 + 1)
                events :=
                  .auxiliaryToken (numbering.auxiliaryName place) source :: numbering.events }) := by
  rw [addAuxiliary]
  split
  · rename_i known found
    simp [found, eq_comm]
  · rename_i unknown
    simp only [bind_eq_ok, add_eq_ok, require_eq_ok, pure_eq_ok, unknown, reduceCtorEq, false_and,
      false_or, true_and, Prod.mk.injEq]
    -- The matcher is made before the symbol is added, and neither depends on the other.
    constructor
    · rintro ⟨matcher, made, _, ⟨fits, rfl⟩, rfl, rfl⟩
      exact ⟨fits, rfl, matcher, made, rfl⟩
    · rintro ⟨fits, rfl, matcher, made, rfl⟩
      exact ⟨matcher, made, _, ⟨fits, rfl⟩, rfl, rfl⟩

/-- A token inside of something else is a literal or has a pattern, and is added as such. -/
theorem addInline_eq_ok {place : String} {token : Rule} {result : Nat × Numbering} :
    numbering.addInline room place token = .ok result ↔
      (∃ text, token.tokenBody.1.stringText? = some text
        ∧ numbering.addLiteral room text token.tokenBody.2 = .ok result)
      ∨ (token.tokenBody.1.stringText? = none ∧ ∃ source, token.tokenBody.1.tokenSource = .ok source
        ∧ numbering.addAuxiliary room place token.tokenBody.1 source token.tokenBody.2
          = .ok result) := by
  rw [addInline]
  obtain ⟨body, immediate⟩ := token.tokenBody
  cases literal : body.stringText? with
  | some text => simp [literal]
  | none =>
      cases made : body.tokenSource with
      | error symbol => simp [literal, made, reject_ne_ok]
      | ok source => simp [literal, made]

theorem addRuleTokens_lexical {name : String} {rule body : Rule} {immediate : Bool}
    (lexical : rule.lexicalBody? = some (body, immediate)) :
    numbering.addRuleTokens room name rule = numbering.addLexicalRule room name body immediate := by
  rw [addRuleTokens, lexical]

theorem addRuleTokens_inline {name : String} {rule : Rule} (inner : rule.lexicalBody? = none) :
    numbering.addRuleTokens room name rule =
      rule.inlineTokens.foldlM
        (fun numbering token => (numbering.addInline room name token).map (·.2)) numbering := by
  rw [addRuleTokens, inner]

theorem addExtra_eq_ok {extra : Rule} {found result : List ExtraRef × Numbering} :
    addExtra room found extra = .ok result ↔
      (extra.isSymbol = true ∧ result = (.name (extra.name.getD "") :: found.1, found.2))
        ∨ (extra.isSymbol = false ∧ ∃ id after, found.2.addInline room "extras" extra = .ok (id, after)
          ∧ result = (.id id :: found.1, after)) := by
  rw [addExtra]
  cases extra.isSymbol with
  | true => simp [eq_comm]
  | false =>
      simp only [Bool.false_eq_true, if_false, map_eq_ok, false_and, false_or, true_and]
      constructor
      · rintro ⟨⟨id, after⟩, added, rfl⟩
        exact ⟨id, after, added, rfl⟩
      · rintro ⟨id, after, added, rfl⟩
        exact ⟨(id, after), added, rfl⟩

theorem addExternal_eq_ok {external : Rule} {found result : List Nat × Numbering} :
    addExternal room found external = .ok result ↔
      (Grammar.externalName? external = none ∧ result = found)
        ∨ (found.2.next < room ∧ ∃ name, Grammar.externalName? external = some name
          ∧ result = (found.2.next :: found.1,
            { found.2 with
              symbols := found.2.symbols.push (.external name external.isSymbol)
              ids := found.2.ids.insertIfNew name found.2.next })) := by
  rw [addExternal]
  split
  · rename_i nameless
    simp [nameless, eq_comm]
  · rename_i name named
    simp only [bind_eq_ok, add_eq_ok, pure_eq_ok, named, reduceCtorEq, false_and, false_or,
      Option.some.injEq, exists_eq_left']
    constructor
    · rintro ⟨_, ⟨fits, rfl⟩, rfl⟩
      exact ⟨fits, rfl⟩
    · rintro ⟨fits, rfl⟩
      exact ⟨_, ⟨fits, rfl⟩, rfl⟩

/-- The symbol of a rule that is no token. -/
def ruleSymbol (isSupertype : String → Bool) (name : String) : Symbol :=
  { Symbol.ofRule name .nonterminal with supertype := isSupertype name }

theorem addRule_eq_ok {isSupertype : String → Bool} {name : String} :
    numbering.addRule room isSupertype name = .ok after ↔
      (numbering.ids.contains name = true ∧ after = numbering)
        ∨ (numbering.ids.contains name = false ∧ numbering.next < room
          ∧ after =
            { numbering with
              symbols := numbering.symbols.push (ruleSymbol isSupertype name)
              ids := numbering.ids.insert name numbering.next }) := by
  rw [addRule]
  cases numbering.ids.contains name with
  | true => simp [eq_comm]
  | false =>
      simp only [Bool.false_eq_true, if_false, bind_eq_ok, add_eq_ok, pure_eq_ok, false_and, false_or,
        true_and]
      constructor
      · rintro ⟨_, ⟨fits, rfl⟩, rfl⟩
        exact ⟨fits, rfl⟩
      · rintro ⟨fits, rfl⟩
        exact ⟨_, ⟨fits, rfl⟩, rfl⟩

theorem addAlias_eq_ok {spelling : String × Bool} :
    numbering.addAlias room spelling = .ok after ↔
      (numbering.symbols.toList.any (·.shows spelling.1 spelling.2) = true ∧ after = numbering)
        ∨ (numbering.symbols.toList.any (·.shows spelling.1 spelling.2) = false
          ∧ numbering.next < room
          ∧ after =
            { numbering with
              symbols := numbering.symbols.push (.aliased spelling.1 spelling.2) }) := by
  rw [addAlias]
  cases numbering.symbols.toList.any (·.shows spelling.1 spelling.2) with
  | true => simp [eq_comm]
  | false => simp [add_eq_ok]

/-- The number that a reference among the extras stands for when all symbols have theirs. -/
def ExtraRef.resolve? (numbering : Numbering) : ExtraRef → Option Nat
  | .id number => some number
  | .name spelling => numbering.ids[spelling]?

end Numbering

open Treegram.Numbering in
/-- A grammar is numbered in five phases: the tokens of rules, the extras, the external tokens, the
rules that are no tokens, and the aliases. -/
theorem Grammar.number_eq_ok {room : Nat} {start : String} {grammar : Grammar}
    {numbered : NumberedGrammar} :
    grammar.number room start = .ok numbered ↔
      ∃ ruleTokens references tokens externals beforeRules beforeAliases after,
        (grammar.numberedRules start).foldlM
          (fun numbering rule => addRuleTokens room rule.1 rule.2 numbering) {} = .ok ruleTokens
        ∧ grammar.extraRules.foldlM (addExtra room) ([], ruleTokens) = .ok (references, tokens)
        ∧ grammar.externalRules.foldlM (addExternal room) ([], tokens) = .ok (externals, beforeRules)
        ∧ ((grammar.numberedRules start).map (·.1)).foldlM
            (addRule room grammar.supertypeNames.contains) beforeRules = .ok beforeAliases
        ∧ (Grammar.aliases (grammar.numberedRules start)).foldlM (addAlias room) beforeAliases
          = .ok after
        ∧ numbered = ⟨after, references.reverse.filterMap (ExtraRef.resolve? after),
            externals.reverse⟩ := by
  simp only [Grammar.number, bind_eq_ok, pure_eq_ok]
  constructor
  · rintro ⟨ruleTokens, first, ⟨references, tokens⟩, second, ⟨externals, beforeRules⟩, third,
      beforeAliases, fourth, after, fifth, rfl⟩
    exact ⟨ruleTokens, references, tokens, externals, beforeRules, beforeAliases, after, first, second,
      third, fourth, fifth, rfl⟩
  · rintro ⟨ruleTokens, references, tokens, externals, beforeRules, beforeAliases, after, first,
      second, third, fourth, fifth, rfl⟩
    exact ⟨ruleTokens, first, (references, tokens), second, (externals, beforeRules), third,
      beforeAliases, fourth, after, fifth, rfl⟩

/-- What is loaded is the numbering of a grammar without a defect. -/
theorem Language.loadWithin_eq_ok {room : Nat} {options : LoadOptions} {grammar : Grammar}
    {language : Language} :
    (Language.loadWithin room options grammar).1 = .ok language ↔
      grammar.defect? options.strict = none ∧ ∃ start numbered, grammar.startRule? = some start
        ∧ grammar.number room start = .ok numbered
        ∧ language = Language.ofNumbered grammar start numbered options.version := by
  rw [Language.loadWithin, Grammar.check]
  cases verdict : grammar.defect? options.strict with
  | some defect => simp
  | none =>
      obtain ⟨start, root⟩ := Grammar.startRule?_isSome verdict
      rw [root]
      cases made : grammar.number room start with
      | error failure => simp [made]
      | ok numbered => simp [made, eq_comm]

end Treegram
