import Mathlib.Logic.ExistsUnique
import Treegram.Proofs.Language.Contents
import Treegram.Proofs.Language.Tokens

/-!
Tokens inside of other things. Each token that is written in a rule or stands among the extras has one
anonymous symbol, which it shares with the tokens of the same text or pattern, and there are no other
anonymous terminals. The names of those that are patterns are counted for each place.
-/

namespace Treegram

namespace Rule

/-- The kinds that are tokens wherever they stand. -/
def Kind.isToken : Kind → Bool
  | .string | .pattern | .token | .immediateToken => true
  | _ => false

/-- The token is the first one on some way down from the rule. -/
inductive Meets : Rule → Rule → Prop where
  | here {token : Rule} (kind : token.kind.isToken = true) : Meets token token
  | content {rule inner token : Rule} (other : rule.kind.isToken = false)
      (held : rule.content = some inner) (below : Meets inner token) : Meets rule token
  | member {rule inner token : Rule} (other : rule.kind.isToken = false)
      (held : inner ∈ rule.members) (below : Meets inner token) : Meets rule token

theorem inlineTokensOnto_token {rule : Rule} (kind : rule.kind.isToken = true) (rest : List Rule) :
    rule.inlineTokensOnto rest = rule :: rest := by
  rw [inlineTokensOnto, fold_eq]
  cases own : rule.kind <;> simp [own, Kind.isToken] at kind ⊢

theorem inlineTokensOnto_other {rule : Rule} (other : rule.kind.isToken = false) (rest : List Rule) :
    rule.inlineTokensOnto rest =
      gather (rule.content.map inlineTokensOnto) (rule.members.map inlineTokensOnto) rest := by
  rw [inlineTokensOnto, fold_eq]
  cases own : rule.kind <;> simp [own, Kind.isToken] at other ⊢

theorem inlineTokensOnto_eq (rule : Rule) :
    ∀ rest, rule.inlineTokensOnto rest = rule.inlineTokens ++ rest := by
  induction rule using childInduction with
  | step rule ih =>
      intro rest
      rw [inlineTokens]
      cases kind : rule.kind.isToken with
      | true => rw [inlineTokensOnto_token kind, inlineTokensOnto_token kind, List.singleton_append]
      | false =>
          rw [inlineTokensOnto_other kind, inlineTokensOnto_other kind,
            gather_map rule inlineTokensOnto inlineTokens ih rest,
            gather_map rule inlineTokensOnto inlineTokens ih [], List.append_nil]

theorem inlineTokens_token {rule : Rule} (kind : rule.kind.isToken = true) :
    rule.inlineTokens = [rule] :=
  inlineTokensOnto_token kind []

theorem inlineTokens_other {rule : Rule} (other : rule.kind.isToken = false) :
    rule.inlineTokens = rule.children.flatMap inlineTokens := by
  rw [inlineTokens, inlineTokensOnto_other other,
    gather_map rule inlineTokensOnto inlineTokens fun child _ => inlineTokensOnto_eq child,
    List.append_nil]

theorem mem_inlineTokens {rule token : Rule} : token ∈ rule.inlineTokens ↔ rule.Meets token := by
  constructor
  · induction rule using childInduction with
    | step rule ih =>
        cases kind : rule.kind.isToken with
        | true =>
            rw [inlineTokens_token kind, List.mem_singleton]
            rintro rfl
            exact .here kind
        | false =>
            rw [inlineTokens_other kind, List.mem_flatMap]
            rintro ⟨child, found, inside⟩
            have below := ih child found inside
            rcases List.mem_append.mp found with content | member
            · exact .content kind (Option.mem_toList.mp content) below
            · exact .member kind member below
  · intro met
    have step {rule child token : Rule} (other : rule.kind.isToken = false)
        (found : child ∈ rule.children) (inside : token ∈ child.inlineTokens) :
        token ∈ rule.inlineTokens := by
      rw [inlineTokens_other other]
      exact List.mem_flatMap.mpr ⟨child, found, inside⟩
    induction met with
    | here kind =>
        rw [inlineTokens_token kind]
        exact List.mem_singleton_self _
    | content other held _ ih =>
        exact step other (List.mem_append_left _ (Option.mem_toList.mpr held)) ih
    | member other held _ ih => exact step other (List.mem_append_right _ held) ih

end Rule

/-- An anonymous terminal that no tree shows. -/
def Symbol.isAuxiliary (symbol : Symbol) : Bool :=
  symbol.kind == .terminal && !symbol.named && !symbol.visible

/-- The name of a token that is a pattern: the place it is named after, and its number there. -/
def tokenName (place : String) (number : Nat) : String := place ++ "_token" ++ toString number

/-- A name tells the place and the number apart: the number is made of the last digits, and no place
can make up for them, because the letter before them is none. -/
theorem tokenName_inj {place other : String} {number count : Nat}
    (same : tokenName place number = tokenName other count) : place = other ∧ number = count := by
  have digits (number : Nat) : ∀ c ∈ (Nat.toDigits 10 number).reverse, c.isDigit = true :=
    fun _ found => Nat.isDigit_of_mem_toDigits (by decide) (by decide) (List.mem_reverse.mp found)
  have shape (place : String) (number : Nat) : (tokenName place number).toList.reverse =
      (Nat.toDigits 10 number).reverse ++ "nekot_".toList ++ place.toList.reverse := by
    simp [tokenName, Nat.toString_eq_repr]
  have last (place : String) (number : Nat) :
      (tokenName place number).toList.reverse.takeWhile Char.isDigit =
        (Nat.toDigits 10 number).reverse := by
    rw [shape, List.append_assoc, List.takeWhile_append_of_pos (digits number)]
    exact List.append_nil _
  have numbers : (Nat.toDigits 10 number).reverse = (Nat.toDigits 10 count).reverse := by
    rw [← last place, ← last other, same]
  have whole := congrArg (·.toList.reverse) same
  simp only [shape, numbers, List.append_cancel_left_eq, List.append_assoc, List.reverse_inj] at whole
  refine ⟨String.toList_inj.mp whole, ?_⟩
  rw [← @Nat.ofDigitChars_ten_toDigits number, ← @Nat.ofDigitChars_ten_toDigits count,
    List.reverse_inj.mp numbers]

namespace TokenUse
variable {use other : TokenUse} {uses : List TokenUse} {key : TokenKey}

/-! ## First uses -/

theorem mem_of_introduced {earlier : List TokenUse} (found : use ∈ introduced earlier uses) :
    use ∈ uses := by
  induction uses generalizing earlier with
  | nil => cases found
  | cons first rest ih =>
      rw [introduced, List.mem_append] at found
      rcases found with here | later
      · split at here
        · rw [List.mem_singleton.mp here]
          exact List.mem_cons_self
        · cases here
      · exact List.mem_cons_of_mem _ (ih later)

/-- No two first uses have the same key. -/
theorem introduced_keys (uses : List TokenUse) : ((introduced [] uses).filterMap key?).Nodup := by
  induction uses using List.reverseRecOn with
  | nil => exact List.nodup_nil
  | append_singleton uses use ih =>
      cases new : use.isNew uses with
      | false =>
          rw [introduced_old new]
          exact ih
      | true =>
          rw [introduced_new new, List.filterMap_append]
          cases known : use.key? with
          | none => simpa [known] using ih
          | some key =>
              have unused : key ∉ (introduced [] uses).filterMap key? := by
                intro found
                obtain ⟨first, held, same⟩ := List.mem_filterMap.mp found
                exact (isNew_iff known).mp new
                  (List.mem_filterMap.mpr ⟨first, mem_of_introduced held, same⟩)
              rw [List.filterMap_cons_some known, List.filterMap_nil]
              exact List.nodup_append.mpr ⟨ih, List.pairwise_singleton _ key, by grind⟩

theorem place_of_key {index place : Nat} (here : (introduced [] uses)[index]? = some use)
    (there : (introduced [] uses)[place]? = some other) (known : use.key? = some key)
    (same : other.key? = some key) : index = place := by
  have distinct := introduced_keys uses
  rw [List.Nodup, List.pairwise_filterMap, List.pairwise_iff_getElem] at distinct
  obtain ⟨inside, rfl⟩ := List.getElem?_eq_some_iff.mp here
  obtain ⟨within, rfl⟩ := List.getElem?_eq_some_iff.mp there
  rcases Nat.lt_trichotomy index place with less | equal | more
  · exact absurd rfl (distinct index place inside within less key known key same)
  · exact equal
  · exact absurd rfl (distinct place index within inside more key same key known)

/-- Each key that is used has one place among the first uses. -/
theorem existsUnique_place (held : use ∈ uses) (known : use.key? = some key) :
    ∃! id, ∃ index first, (introduced [] uses)[index]? = some first ∧ id = index + 1
      ∧ first.key? = some key := by
  obtain ⟨first, introduced, same⟩ := exists_introduced held
  obtain ⟨index, here⟩ := List.mem_iff_getElem?.mp introduced
  have same : first.key? = some key := by
    rcases same with rfl | ⟨other, there, same⟩
    · exact known
    · rw [same, ← there, known]
  refine ⟨index + 1, ⟨index, first, here, rfl, same⟩, ?_⟩
  rintro _ ⟨place, other, there, rfl, also⟩
  rw [place_of_key here there same also]

theorem symbols_getElem? (earlier uses : List TokenUse) (index : Nat) :
    (symbols earlier uses)[index]? =
      uses[index]?.map fun use => use.symbol (earlier ++ uses.take index) := by
  induction uses generalizing earlier index with
  | nil => rfl
  | cons first rest ih =>
      cases index with
      | zero => simp [symbols]
      | succ index => simp [symbols, ih]

/-- The matcher of a token tells whether it is a literal or a pattern, and which one. -/
theorem of_tokenMatcher {limits : Pattern.Limits} {place : String} {body : Rule} {matcher : Matcher}
    (made : tokenMatcher limits place body = .ok matcher) :
    (∃ text, body.stringText? = some text ∧ matcher = .literal text)
      ∨ (body.stringText? = none ∧ ∃ source term, body.tokenSource = .ok source
        ∧ matcher = .pattern source term) := by
  cases literal : body.stringText? with
  | some text =>
      rw [tokenMatcher_string literal, Except.ok.injEq] at made
      exact .inl ⟨text, rfl, made.symm⟩
  | none =>
      cases translated : body.tokenSource with
      | error symbol => simp [tokenMatcher, literal, translated] at made
      | ok source =>
          obtain ⟨piece, _, _, rfl⟩ := (tokenMatcher_pattern literal translated).mp made
          exact .inr ⟨rfl, source, _, rfl, rfl⟩

/-! ## Names of patterns -/

theorem symbol_literal {place text : String} {body : Rule} {immediate : Bool}
    (literal : body.stringText? = some text) (earlier : List TokenUse) :
    (inside place body immediate).symbol earlier = .literal text := by
  rw [symbol, literal]

theorem symbol_pattern {place : String} {body : Rule} {immediate : Bool}
    (other : body.stringText? = none) (earlier : List TokenUse) :
    (inside place body immediate).symbol earlier =
      .auxiliary (tokenName place (earlier.countP (isNamedAfter place) + 1)) := by
  rw [symbol, other]
  rfl

theorem isNamedAfter_iff {place : String} : use.isNamedAfter place = true ↔
    ∃ body immediate, use = .inside place body immediate ∧ body.stringText? = none := by
  cases use with
  | rule name body immediate => simp [isNamedAfter]
  | inside other body immediate => simp [isNamedAfter]

/-- The names of the patterns among the symbols of tokens. -/
def names (uses : List TokenUse) : List String :=
  ((symbols [] uses).filter (·.isAuxiliary)).map (·.name)

theorem names_append (uses : List TokenUse) (use : TokenUse) :
    names (uses ++ [use]) =
      names uses ++ (([use.symbol uses].filter (·.isAuxiliary)).map (·.name)) := by
  rw [names, symbols_append, List.filter_append, List.map_append]
  rfl

theorem names_append_named {place : String} (named : use.isNamedAfter place = true) :
    names (uses ++ [use]) =
      names uses ++ [tokenName place (uses.countP (isNamedAfter place) + 1)] := by
  obtain ⟨body, immediate, rfl, other⟩ := isNamedAfter_iff.mp named
  rw [names_append, symbol_pattern other]
  simp [Symbol.auxiliary, Symbol.isAuxiliary]

theorem names_append_other (other : ∀ place, use.isNamedAfter place = false) :
    names (uses ++ [use]) = names uses := by
  rw [names_append]
  cases use with
  | rule name body immediate =>
      simp [symbol, Symbol.ofRule, Symbol.isAuxiliary]
  | inside place body immediate =>
      have literal := other place
      rw [isNamedAfter, beq_self_eq_true, Bool.true_and] at literal
      obtain ⟨text, literal⟩ := Option.isSome_iff_exists.mp (Option.isNone_eq_false_iff.mp literal)
      rw [symbol_literal literal]
      simp [Symbol.literal, Symbol.isAuxiliary]

/-- The names after one place are its first numbers, in ascending order. -/
structure Numbers (names : List String) (place : String) (count : Nat) : Prop where
  mem_iff : ∀ number, tokenName place number ∈ names ↔ 1 ≤ number ∧ number ≤ count
  ascending : ((List.range' 1 count).map (tokenName place)).Sublist names

theorem Numbers.beside {names : List String} {place there : String} {count number : Nat}
    (numbers : Numbers names place count) (apart : place ≠ there) :
    Numbers (names ++ [tokenName there number]) place count := by
  refine ⟨fun other => ?_, numbers.ascending.trans (List.sublist_append_left _ _)⟩
  rw [List.mem_append, List.mem_singleton, numbers.mem_iff]
  exact or_iff_left fun same => apart (tokenName_inj same).1

theorem Numbers.next {names : List String} {place : String} {count : Nat}
    (numbers : Numbers names place count) :
    Numbers (names ++ [tokenName place (count + 1)]) place (count + 1) := by
  constructor
  · intro number
    have same : tokenName place number = tokenName place (count + 1) ↔ number = count + 1 :=
      ⟨fun same => (tokenName_inj same).2, congrArg _⟩
    rw [List.mem_append, List.mem_singleton, numbers.mem_iff, same]
    omega
  · rw [List.range'_concat, List.map_append, Nat.one_mul, Nat.add_comm 1]
    exact numbers.ascending.append (List.Sublist.refl _)

/-- The names of patterns are distinct, and those after one place are numbered from 1 on. -/
theorem names_numbered (uses : List TokenUse) :
    (names uses).Nodup ∧ ∀ place, Numbers (names uses) place (uses.countP (isNamedAfter place)) := by
  -- From the end, as a name is numbered by the uses before it; the last use names at most one place.
  induction uses using List.reverseRecOn with
  | nil => exact ⟨List.nodup_nil, fun place => ⟨by simp [names, symbols]; omega, List.Sublist.refl _⟩⟩
  | append_singleton uses use ih =>
      obtain ⟨distinct, numbers⟩ := ih
      by_cases named : ∃ place, use.isNamedAfter place = true
      · obtain ⟨place, named⟩ := named
        have unused : tokenName place (uses.countP (isNamedAfter place) + 1) ∉ names uses := by
          rw [(numbers place).mem_iff]
          omega
        rw [names_append_named named]
        refine ⟨List.nodup_append.mpr ⟨distinct, List.pairwise_singleton _ _, by grind⟩, ?_⟩
        intro other
        rw [List.countP_append, List.countP_singleton]
        by_cases same : other = place
        · subst same
          rw [if_pos named]
          exact (numbers other).next
        · have unnamed : ¬ use.isNamedAfter other = true := by
            obtain ⟨body, immediate, rfl, _⟩ := isNamedAfter_iff.mp named
            simp [isNamedAfter, Ne.symm same]
          rw [if_neg unnamed]
          exact (numbers other).beside same
      · have unnamed (place : String) : use.isNamedAfter place = false :=
          Bool.eq_false_iff.mpr fun after => named ⟨place, after⟩
        rw [names_append_other unnamed]
        refine ⟨distinct, fun place => ?_⟩
        rw [List.countP_append, List.countP_singleton, if_neg (by rw [unnamed]; decide)]
        exact numbers place

end TokenUse

namespace Grammar
variable {grammar : Grammar} {start : String}

/-- A token that is written at a place: in a rule that is none itself, or among the extras. -/
inductive WritesToken (grammar : Grammar) : String → Rule → Prop where
  | inside {name : String} {rule token : Rule} (found : grammar.rules[name]? = some rule)
      (other : rule.lexicalBody? = none) (met : rule.Meets token) : WritesToken grammar name token
  | extra {extra : Rule} (found : extra ∈ grammar.extraRules) (token : extra.kind ≠ .symbol) :
      WritesToken grammar "extras" extra

/-- The tokens that are written are those that are used inside of something else. -/
theorem writesToken_iff {place : String} {body : Rule} {immediate : Bool} :
    .inside place body immediate ∈ grammar.tokenUses start ↔
      ∃ token, grammar.WritesToken place token ∧ token.tokenBody = (body, immediate) := by
  simp only [tokenUses, List.mem_append, List.mem_flatMap, mem_numberedRules, mem_ruleUses,
    mem_extraUses, Prod.exists, Std.ExtTreeMap.mem_toList_iff_getElem?_eq_some, Rule.mem_inlineTokens]
  constructor
  · rintro (⟨name, rule, found, ⟨_, _, _, ⟨⟩⟩ | ⟨other, token, met, same⟩⟩ | ⟨extra, found, token, same⟩)
    · obtain ⟨rfl, rfl, rfl⟩ := TokenUse.inside.inj same
      exact ⟨token, .inside found other met, rfl⟩
    · obtain ⟨rfl, rfl, rfl⟩ := TokenUse.inside.inj same
      refine ⟨extra, .extra found ?_, rfl⟩
      simpa [Rule.isSymbol] using token
  · rintro ⟨token, written, same⟩
    obtain ⟨rfl, rfl⟩ := Prod.mk.inj same
    cases written with
    | inside found other met => exact .inl ⟨_, _, found, .inr ⟨other, token, met, rfl⟩⟩
    | extra found kind => exact .inr ⟨token, found, by simpa [Rule.isSymbol] using kind, rfl⟩

end Grammar

namespace Language
variable {options : LoadOptions} {grammar : Grammar} {language : Language} {uses : List TokenUse}

/-- The language has a token for each of the uses, in their order, and no others. -/
structure HasTokens (language : Language) (uses : List TokenUse) : Prop where
  made : ∀ index use, uses[index]? = some use →
    ∃ token ∈ language.tokens.toList, token.symbol = index + 1 ∧ use.IsMade token
  used : ∀ token ∈ language.tokens.toList, ∃ index use, uses[index]? = some use
    ∧ token.symbol = index + 1 ∧ use.IsMade token
  symbols : ∀ index use, uses[index]? = some use →
    language.symbol? (index + 1) = some (use.symbol (uses.take index))
  terminals : language.symbols.toList.filter (·.kind = .terminal) = TokenUse.symbols [] uses
  terminal : ∀ id symbol, language.symbol? id = some symbol → symbol.kind = .terminal →
    ∃ index use, uses[index]? = some use ∧ id = index + 1

theorem load_hasTokens (done : (load options grammar).1 = .ok language) :
    ∃ start, language.HasTokens (TokenUse.introduced [] (grammar.tokenUses start))
      ∧ ∀ use ∈ grammar.tokenUses start, ∃ token, use.IsMade token := by
  obtain ⟨_, start, numbered, _, made, rfl, blocks⟩ := load_contents done
  -- The end of the input has the first place among the symbols, so tokens stand one place further.
  have rows := Grammar.number_tokens (by decide) made
  refine ⟨start, ⟨?_, ?_, ?_, ?_, ?_⟩, fun use held => ?_⟩
  · intro index use here
    obtain ⟨inside, rfl⟩ := List.getElem?_eq_some_iff.mp here
    have within : index < numbered.numbering.tokens.toList.length := rows.length_eq ▸ inside
    exact ⟨_, List.getElem_mem within,
      blocks.tokenPlaces index _ (Array.getElem?_toList.symm.trans (List.getElem?_eq_getElem within)),
      rows.get inside within⟩
  · intro token held
    obtain ⟨index, within, rfl⟩ := List.mem_iff_getElem.mp held
    have inside := rows.length_eq.symm ▸ within
    exact ⟨index, _, List.getElem?_eq_getElem inside,
      blocks.tokenPlaces index _ (Array.getElem?_toList.symm.trans (List.getElem?_eq_getElem within)),
      rows.get inside within⟩
  · intro index use here
    have own : (TokenUse.table (grammar.tokenUses start))[index]? =
        some (use.symbol ((TokenUse.introduced [] (grammar.tokenUses start)).take index)) := by
      rw [TokenUse.table, TokenUse.symbols_getElem?, here]
      rfl
    change numbered.numbering.symbols[index + 1]? = _
    rw [← Array.getElem?_toList, blocks.symbols, List.getElem?_cons_succ,
      List.getElem?_append_left (List.getElem?_eq_some_iff.mp own).1, own]
  · change numbered.numbering.symbols.toList.filter _ = _
    rw [blocks.symbols, Grammar.filter_parts blocks.terminalKind blocks.externalKind
      blocks.nonterminalKind blocks.aliasedKind]
    rfl
  · intro id symbol here kind
    have terminal : (ofNumbered grammar start numbered options.version).symbolKind? id =
        some .terminal := by rw [symbolKind?, here, Option.map_some, kind]
    obtain ⟨positive, least⟩ := (blocks.kind_terminal id).mp terminal
    have inside : id - 1 < (TokenUse.introduced [] (grammar.tokenUses start)).length := by
      rw [rows.length_eq, Array.length_toList]
      omega
    exact ⟨id - 1, _, List.getElem?_eq_getElem inside, by omega⟩
  · obtain ⟨token, _, made⟩ := TokenUse.exists_token rows held
    exact ⟨token, made⟩

/-- A number is that of an anonymous terminal, with this symbol and this token. -/
structure IsAnonymous (language : Language) (id : Nat) (symbol : Symbol) (token : Token) : Prop where
  held : language.symbol? id = some symbol
  terminal : symbol.kind = .terminal
  unnamed : symbol.named = false
  own : token ∈ language.tokens.toList
  numbered : token.symbol = id

/-- A number is that of a literal. -/
def IsLiteral (language : Language) (id : Nat) (text : String) (immediate : Bool) : Prop :=
  ∃ symbol token, language.IsAnonymous id symbol token ∧ symbol.visible = true ∧ symbol.name = text
    ∧ token.matcher = .literal text ∧ token.immediate = immediate

/-- A number is that of a pattern, which no tree shows. -/
def IsPattern (language : Language) (id : Nat) (source : String) (immediate : Bool) : Prop :=
  ∃ symbol token, language.IsAnonymous id symbol token ∧ symbol.visible = false
    ∧ (∃ term, token.matcher = .pattern source term) ∧ token.immediate = immediate

/-- The names of the anonymous terminals that no tree shows, in the order of their numbers. -/
def auxiliaryNames (language : Language) : List String :=
  (language.symbols.toList.filter (·.isAuxiliary)).map (·.name)

theorem HasTokens.auxiliaryNames (holds : language.HasTokens uses) :
    language.auxiliaryNames = TokenUse.names uses := by
  rw [Language.auxiliaryNames, TokenUse.names, ← holds.terminals, List.filter_filter]
  congr 1
  refine List.filter_congr fun symbol _ => ?_
  cases kind : symbol.kind <;> simp [Symbol.isAuxiliary, kind]

/-- An anonymous terminal is that of a use inside of something else. -/
theorem HasTokens.inside (holds : language.HasTokens uses) {id : Nat} {symbol : Symbol} {token : Token}
    (anonymous : language.IsAnonymous id symbol token) :
    ∃ index place body immediate, uses[index]? = some (.inside place body immediate)
      ∧ id = index + 1 ∧ symbol = (TokenUse.inside place body immediate).symbol (uses.take index)
      ∧ (TokenUse.inside place body immediate).IsMade token := by
  obtain ⟨held, _, unnamed, own, rfl⟩ := anonymous
  obtain ⟨index, use, here, numbered, made⟩ := holds.used token own
  rw [numbered, holds.symbols index use here, Option.some.injEq] at held
  cases use with
  | rule name body immediate =>
      rw [← held] at unnamed
      cases unnamed
  | inside place body immediate =>
      exact ⟨index, place, body, immediate, here, numbered, held.symm, made⟩

/-- A use inside of something else has an anonymous terminal. -/
theorem HasTokens.anonymous (holds : language.HasTokens uses) {index : Nat} {place : String}
    {body : Rule} {immediate : Bool} (here : uses[index]? = some (.inside place body immediate)) :
    ∃ token, (TokenUse.inside place body immediate).IsMade token
      ∧ language.IsAnonymous (index + 1)
        ((TokenUse.inside place body immediate).symbol (uses.take index)) token := by
  obtain ⟨token, own, numbered, made⟩ := holds.made index _ here
  refine ⟨token, made, holds.symbols index _ here, TokenUse.symbol_kind _ _, ?_, own, numbered⟩
  cases literal : body.stringText? with
  | some text => rw [TokenUse.symbol_literal literal, Symbol.literal]
  | none => rw [TokenUse.symbol_pattern literal, Symbol.auxiliary]

theorem HasTokens.literal_iff (holds : language.HasTokens uses) {id : Nat} {text : String}
    {immediate : Bool} : language.IsLiteral id text immediate ↔
      ∃ index use, uses[index]? = some use ∧ id = index + 1
        ∧ use.key? = some (.text text immediate) := by
  constructor
  · rintro ⟨symbol, token, anonymous, _, _, fixed, rfl⟩
    obtain ⟨index, place, body, immediate, here, numbered, _, made⟩ := holds.inside anonymous
    refine ⟨index, _, here, numbered, ?_⟩
    rw [made.immediate]
    rcases TokenUse.of_tokenMatcher made.matcher with ⟨other, literal, same⟩ | ⟨_, _, _, _, pattern⟩
    · obtain rfl := Matcher.literal.inj (fixed.symm.trans same)
      exact TokenUse.key_literal place immediate literal
    · cases fixed.symm.trans pattern
  · rintro ⟨index, use, here, rfl, known⟩
    cases use with
    | rule name body before => cases known
    | inside place body before =>
        have literal : body.stringText? = some text := TokenUse.of_key_text known
        obtain ⟨token, made, anonymous⟩ := holds.anonymous here
        rw [TokenUse.symbol_literal literal] at anonymous
        exact ⟨_, token, anonymous, rfl, rfl,
          Except.ok.inj (made.matcher.symm.trans (tokenMatcher_string literal)),
          made.immediate.trans (TokenUse.key_immediate known)⟩

theorem HasTokens.pattern_iff (holds : language.HasTokens uses) {id : Nat} {source : String}
    {immediate : Bool} : language.IsPattern id source immediate ↔
      ∃ index use, uses[index]? = some use ∧ id = index + 1
        ∧ use.key? = some (.pattern source immediate) := by
  constructor
  · rintro ⟨symbol, token, anonymous, _, ⟨term, fixed⟩, rfl⟩
    obtain ⟨index, place, body, immediate, here, numbered, _, made⟩ := holds.inside anonymous
    refine ⟨index, _, here, numbered, ?_⟩
    rw [made.immediate]
    rcases TokenUse.of_tokenMatcher made.matcher with ⟨_, _, same⟩ | ⟨other, _, _, translated, same⟩
    · cases fixed.symm.trans same
    · obtain ⟨rfl, rfl⟩ := Matcher.pattern.inj (fixed.symm.trans same)
      exact TokenUse.key_pattern place immediate other translated
  · rintro ⟨index, use, here, rfl, known⟩
    cases use with
    | rule name body before => cases known
    | inside place body before =>
        have other : body.stringText? = none := (TokenUse.of_key_pattern known).1
        have translated : body.tokenSource = .ok source := (TokenUse.of_key_pattern known).2
        obtain ⟨token, made, anonymous⟩ := holds.anonymous here
        obtain ⟨piece, _, _, same⟩ := (tokenMatcher_pattern other translated).mp made.matcher
        rw [TokenUse.symbol_pattern other] at anonymous
        exact ⟨_, token, anonymous, rfl, ⟨_, same.symm⟩,
          made.immediate.trans (TokenUse.key_immediate known)⟩

/-- The anonymous terminals of a language are those of the tokens that are written in rules and extras. -/
structure WritesTokens (grammar : Grammar) (language : Language) : Prop where
  /-- A literal has one symbol, which shows its text. -/
  literal : ∀ place token text, grammar.WritesToken place token →
    token.tokenBody.1.stringText? = some text → ∃! id, language.IsLiteral id text token.tokenBody.2
  /-- Any other token has one symbol, which is hidden and has its pattern. -/
  pattern : ∀ place token, grammar.WritesToken place token → token.tokenBody.1.stringText? = none →
    ∃ source, token.tokenBody.1.tokenSource = .ok source
      ∧ ∃! id, language.IsPattern id source token.tokenBody.2
  /-- There are no other anonymous terminals. A pattern is named after a place where it is written. -/
  written : ∀ id symbol, language.symbol? id = some symbol → symbol.kind = .terminal →
    symbol.named = false → ∃ place token, grammar.WritesToken place token
      ∧ ((∃ text, token.tokenBody.1.stringText? = some text ∧ symbol = .literal text
          ∧ language.IsLiteral id text token.tokenBody.2)
        ∨ (token.tokenBody.1.stringText? = none ∧ ∃ source number,
          token.tokenBody.1.tokenSource = .ok source
            ∧ symbol = .auxiliary (tokenName place number)
            ∧ language.IsPattern id source token.tokenBody.2))
  /-- The names of patterns are distinct, and those after one place are numbered from 1 on. -/
  distinct : language.auxiliaryNames.Nodup
  numbers : ∀ place, ∃ count, TokenUse.Numbers language.auxiliaryNames place count

/-- Tokens inside of rules and extras are neither lost nor made twice. -/
theorem load_inlineTokens (done : (load options grammar).1 = .ok language) :
    language.WritesTokens grammar := by
  obtain ⟨start, holds, usable⟩ := load_hasTokens done
  have used {place : String} {token : Rule} (written : grammar.WritesToken place token) :
      .inside place token.tokenBody.1 token.tokenBody.2 ∈ grammar.tokenUses start :=
    Grammar.writesToken_iff.mpr ⟨token, written, rfl⟩
  constructor
  case literal =>
    intro place token text written literal
    simp only [holds.literal_iff]
    exact TokenUse.existsUnique_place (used written) (TokenUse.key_literal place _ literal)
  case pattern =>
    intro place token written other
    obtain ⟨own, made⟩ := usable _ (used written)
    rcases TokenUse.of_tokenMatcher made.matcher with ⟨_, literal, _⟩ | ⟨_, source, _, translated, _⟩
    · cases other.symm.trans literal
    · simp only [holds.pattern_iff]
      exact ⟨source, translated, TokenUse.existsUnique_place (used written)
        (TokenUse.key_pattern place _ other translated)⟩
  case written =>
    intro id symbol here terminal unnamed
    obtain ⟨index, use, first, rfl⟩ := holds.terminal id symbol here terminal
    obtain rfl := Option.some.inj (here.symm.trans (holds.symbols index use first))
    cases use with
    | rule name body immediate => cases unnamed
    | inside place body immediate =>
        have held := TokenUse.mem_of_introduced (List.mem_of_getElem? first)
        obtain ⟨token, written, same⟩ := Grammar.writesToken_iff.mp held
        obtain ⟨own, made⟩ := usable _ held
        refine ⟨place, token, written, ?_⟩
        rw [same]
        rcases TokenUse.of_tokenMatcher made.matcher with
          ⟨text, literal, _⟩ | ⟨other, source, _, translated, _⟩
        · have known := TokenUse.key_literal place immediate literal
          exact .inl ⟨text, literal, TokenUse.symbol_literal literal _,
            holds.literal_iff.mpr ⟨index, _, first, rfl, known⟩⟩
        · have known := TokenUse.key_pattern place immediate other translated
          exact .inr ⟨other, source, _, translated, TokenUse.symbol_pattern other _,
            holds.pattern_iff.mpr ⟨index, _, first, rfl, known⟩⟩
  case distinct =>
    rw [holds.auxiliaryNames]
    exact (TokenUse.names_numbered _).1
  case numbers =>
    intro place
    rw [holds.auxiliaryNames]
    exact ⟨_, (TokenUse.names_numbered _).2 place⟩

/-- A rule that goes by the name of the place of the extras, and one that ends like a counted name. -/
def namesakeGrammar : Grammar where
  name := "namesake"
  rules := Std.ExtTreeMap.ofList
    [("program", Rule.seq [.symbol "extras", .symbol "extras_token1", .string ";"]),
      ("extras", Rule.seq [.pattern "[0-9]", .immediateToken (.string ";")]),
      ("extras_token1", Rule.choice [.pattern "[a-z]", .pattern "[0-9]", .string ";"])]
  extras := some [.pattern "[ ]", .symbol "extras"]

theorem load_inlineTokens_namesake :
    ∃ language, (load {} namesakeGrammar).1 = .ok language ∧ language.WritesTokens namesakeGrammar
      ∧ language.auxiliaryNames = ["extras_token1", "extras_token1_token1", "extras_token2"]
      ∧ (∃! id, language.IsLiteral id ";" false) ∧ ∃! id, language.IsLiteral id ";" true := by
  obtain ⟨language, done, names⟩ : ∃ language, (load {} namesakeGrammar).1 = .ok language
      ∧ language.auxiliaryNames = ["extras_token1", "extras_token1_token1", "extras_token2"] := by
    decide +kernel
  have program : namesakeGrammar.WritesToken "program" (.string ";") :=
    @Grammar.WritesToken.inside _ _ (.seq [.symbol "extras", .symbol "extras_token1", .string ";"]) _
      (by decide +kernel) (by decide +kernel) (.member rfl (by decide) (.here rfl))
  have extras : namesakeGrammar.WritesToken "extras" (.immediateToken (.string ";")) :=
    @Grammar.WritesToken.inside _ _ (.seq [.pattern "[0-9]", .immediateToken (.string ";")]) _
      (by decide +kernel) (by decide +kernel) (.member rfl (by decide) (.here rfl))
  have writes := load_inlineTokens done
  exact ⟨language, done, writes, names, writes.literal "program" _ ";" program (by decide),
    writes.literal "extras" _ ";" extras (by decide)⟩

end Language

end Treegram
