import Mathlib.Data.List.Forall2
import Treegram.Proofs.Language.Table

/-!
Numbering the tokens. From a state that stands for some uses of tokens, each step succeeds exactly
if the tokens it uses can be made and there is room for those that are new, whatever it shares with
earlier ones, and leads to a state that stands for its uses, too.
-/

namespace Treegram

section Extends
variable {ε α β γ : Type}

/-- From any state that stands for some items, a run succeeds exactly if these and the items that it
adds are admitted together, and then leads to a state that stands for all of them. -/
def Extends (Stands : List γ → β → Prop) (Admits : List γ → Prop) (earlier added : List γ)
    (run : β → Except ε β) : Prop :=
  ∀ before, Stands earlier before →
    ((∃ after, run before = .ok after) ↔ Admits (earlier ++ added))
      ∧ ∀ after, run before = .ok after → Stands (earlier ++ added) after

/-- A loop adds what its steps add, if the states it goes through are admitted. -/
theorem extends_foldlM {Stands : List γ → β → Prop} {Admits : List γ → Prop}
    (admitted : ∀ items state, Stands items state → Admits items)
    (shorter : ∀ items more, Admits (items ++ more) → Admits items)
    {step : β → α → Except ε β} (adds : α → List γ) (items : List α) (earlier : List γ)
    (each : ∀ before item after, items = before ++ item :: after →
      Extends Stands Admits (earlier ++ before.flatMap adds) (adds item) (step · item)) :
    Extends Stands Admits earlier (items.flatMap adds) (items.foldlM step) := by
  induction items generalizing earlier with
  | nil =>
      intro before stands
      rw [List.flatMap_nil, List.append_nil]
      refine ⟨⟨fun _ => admitted earlier before stands, fun _ => ⟨before, rfl⟩⟩, ?_⟩
      rintro after ⟨⟩
      exact stands
  | cons item rest ih =>
      intro before stands
      obtain ⟨possible, reaches⟩ :=
        each [] item rest rfl before (by rwa [List.flatMap_nil, List.append_nil])
      rw [List.flatMap_nil, List.append_nil] at possible reaches
      have behind := ih (earlier ++ adds item) fun first next last split => by
        rw [List.append_assoc, ← List.flatMap_cons]
        exact each (item :: first) next last (by rw [split, List.cons_append])
      rw [List.flatMap_cons, ← List.append_assoc]
      simp only [List.foldlM_cons, bind_eq_ok]
      constructor
      · constructor
        · rintro ⟨last, next, stepped, done⟩
          exact (behind next (reaches next stepped)).1.mp ⟨last, done⟩
        · intro admits
          -- What is admitted in the end is admitted on the way, so no step is refused.
          obtain ⟨next, stepped⟩ := possible.mpr (shorter _ _ admits)
          obtain ⟨last, done⟩ := (behind next (reaches next stepped)).1.mpr admits
          exact ⟨last, next, stepped, done⟩
      · rintro last ⟨next, stepped, done⟩
        exact (behind next (reaches next stepped)).2 last done

/-- The loop whose steps add their items. -/
theorem extends_each {Stands : List α → β → Prop} {Admits : List α → Prop}
    (admitted : ∀ items state, Stands items state → Admits items)
    (shorter : ∀ items more, Admits (items ++ more) → Admits items)
    {step : β → α → Except ε β} (items : List α)
    (each : ∀ before item after, items = before ++ item :: after →
      Extends Stands Admits before [item] (step · item)) :
    Extends Stands Admits [] items (items.foldlM step) := by
  have loop := extends_foldlM admitted shorter ([·]) items []
    (fun before item after split => by simpa using each before item after split)
  rwa [List.flatMap_singleton'] at loop

theorem nodup_eraseDups [BEq α] [LawfulBEq α] (items : List α) : items.eraseDups.Nodup := by
  cases items with
  | nil => exact List.nodup_nil
  | cons item rest =>
      rw [List.eraseDups_cons, List.nodup_cons, List.mem_eraseDups]
      exact ⟨by simp, nodup_eraseDups _⟩
termination_by items.length
decreasing_by exact Nat.lt_succ_of_le (List.length_filter_le ..)

end Extends

/-! ## Uses of tokens -/

namespace TokenUse

theorem introduced_append (earlier uses more : List TokenUse) :
    introduced earlier (uses ++ more) =
      introduced earlier uses ++ introduced (earlier ++ uses) more := by
  induction uses generalizing earlier with
  | nil => simp [introduced]
  | cons use rest ih => simp [introduced, ih]

theorem symbols_append (earlier uses more : List TokenUse) :
    symbols earlier (uses ++ more) = symbols earlier uses ++ symbols (earlier ++ uses) more := by
  induction uses generalizing earlier with
  | nil => simp [symbols]
  | cons use rest ih => simp [symbols, ih]

theorem table_append (uses more : List TokenUse) :
    ∃ added, table (uses ++ more) = table uses ++ added := by
  rw [table, introduced_append, symbols_append]
  exact ⟨_, rfl⟩

theorem introduced_new {uses : List TokenUse} {use : TokenUse} (new : use.isNew uses = true) :
    introduced [] (uses ++ [use]) = introduced [] uses ++ [use] := by
  rw [introduced_append, introduced, List.nil_append, if_pos new, introduced, List.append_nil]

theorem table_new {uses : List TokenUse} {use : TokenUse} (new : use.isNew uses = true) :
    table (uses ++ [use]) = table uses ++ [use.symbol (introduced [] uses)] := by
  rw [table, introduced_new new, symbols_append]
  rfl

theorem introduced_old {uses : List TokenUse} {use : TokenUse} (old : use.isNew uses = false) :
    introduced [] (uses ++ [use]) = introduced [] uses := by
  rw [introduced_append, introduced, List.nil_append, if_neg (by rw [old]; decide), introduced,
    List.append_nil]
  exact List.append_nil _

theorem table_old {uses : List TokenUse} {use : TokenUse} (old : use.isNew uses = false) :
    table (uses ++ [use]) = table uses := by
  rw [table, introduced_old old, table]

theorem isNew_iff {uses : List TokenUse} {use : TokenUse} {key : TokenKey}
    (known : use.key? = some key) : use.isNew uses = true ↔ key ∉ uses.filterMap key? := by
  rw [isNew, known]
  simp

theorem isNew_eq_false {uses : List TokenUse} {use : TokenUse} {key : TokenKey}
    (known : use.key? = some key) : use.isNew uses = false ↔ key ∈ uses.filterMap key? := by
  rw [← Bool.not_eq_true, isNew_iff known, Classical.not_not]

theorem mem_keys {uses : List TokenUse} {use : TokenUse} {key other : TokenKey}
    (known : use.key? = some key) :
    other ∈ (uses ++ [use]).filterMap key? ↔ other = key ∨ other ∈ uses.filterMap key? := by
  simp [known, or_comm]

theorem key_literal {text : String} (place : String) {body : Rule} (immediate : Bool)
    (literal : body.stringText? = some text) :
    (inside place body immediate).key? = some (.text text immediate) := by
  rw [key?, literal]

theorem key_pattern {source : String} (place : String) {body : Rule} (immediate : Bool)
    (other : body.stringText? = none) (made : body.tokenSource = .ok source) :
    (inside place body immediate).key? = some (.pattern source immediate) := by
  rw [key?, other, made]
  rfl

/-- The name of a rule that is a token. -/
def ruleName? : TokenUse → Option String
  | .rule name _ _ => some name
  | .inside _ _ _ => none

/-- Whether nothing may stand before the token. -/
def immediate : TokenUse → Bool
  | .rule _ _ immediate => immediate
  | .inside _ _ immediate => immediate

/-- The token is the one that the use asks for. -/
structure IsMade (use : TokenUse) (token : Token) : Prop where
  matcher : tokenMatcher .standard use.place use.body = .ok token.matcher
  immediate : token.immediate = use.immediate

/-- Whether a token can be made for the use. -/
def IsUsable (use : TokenUse) : Prop :=
  ∃ matcher, tokenMatcher .standard use.place use.body = .ok matcher

theorem isUsable_iff {use : TokenUse} :
    use.IsUsable ↔ use.body.stringText? = none → ∃ source, use.body.tokenSource = .ok source
      ∧ (Matcher.ofPattern? .standard source).isSome = true := by
  rw [IsUsable, tokenMatcher]
  cases use.body.stringText? with
  | some text => simp
  | none =>
      cases use.body.tokenSource with
      | error symbol => simp
      | ok source => cases made : Matcher.ofPattern? .standard source <;> simp [made]

theorem of_key_pattern {use : TokenUse} {source : String} {immediate : Bool}
    (known : use.key? = some (.pattern source immediate)) :
    use.body.stringText? = none ∧ use.body.tokenSource = .ok source := by
  cases use with
  | rule name body immediate => cases known
  | inside place body immediate =>
      rw [key?] at known
      cases literal : body.stringText? with
      | some text => simp [literal] at known
      | none =>
          cases made : body.tokenSource with
          | error symbol => simp [literal, made, Except.toOption] at known
          | ok found =>
              simp only [literal, made, Except.toOption, Option.map_some, Option.some.injEq,
                TokenKey.pattern.injEq] at known
              exact ⟨literal, by rw [← known.1]; exact made⟩

/-- Tokens with the same pattern can both be made or not. -/
theorem IsUsable.of_key {use other : TokenUse} {source : String} {immediate : Bool}
    (usable : other.IsUsable) (same : other.key? = some (.pattern source immediate))
    (made : use.body.tokenSource = .ok source) : use.IsUsable := by
  obtain ⟨none, there⟩ := of_key_pattern same
  obtain ⟨found, found_eq, compiles⟩ := isUsable_iff.mp usable none
  rw [there, Except.ok.injEq] at found_eq
  exact isUsable_iff.mpr fun _ => ⟨source, made, by rw [found_eq]; exact compiles⟩

end TokenUse

namespace Numbering
variable {room : Nat}

/-- All these uses of tokens are possible in so much room. -/
def TokensFit (room : Nat) (uses : List TokenUse) : Prop :=
  (∀ use ∈ uses, use.IsUsable) ∧ (TokenUse.table uses).length < room

theorem TokensFit.shorter (uses more : List TokenUse) (fit : TokensFit room (uses ++ more)) :
    TokensFit room uses := by
  obtain ⟨added, table⟩ := TokenUse.table_append uses more
  have less := fit.2
  rw [table, List.length_append] at less
  exact ⟨fun use found => fit.1 use (List.mem_append_left _ found), by omega⟩

/-- The numbering of the tokens that are used. -/
structure Tabled (room : Nat) (uses : List TokenUse) (numbering : Numbering) : Prop where
  symbols : numbering.symbols.toList = .stop :: TokenUse.table uses
  tokens : List.Forall₂ TokenUse.IsMade (TokenUse.introduced [] uses) numbering.tokens.toList
  literals : ∀ text immediate, (text, immediate) ∈ numbering.literalIds ↔
    .text text immediate ∈ uses.filterMap TokenUse.key?
  patterns : ∀ source immediate, (source, immediate) ∈ numbering.auxiliaryIds ↔
    .pattern source immediate ∈ uses.filterMap TokenUse.key?
  counts : ∀ place, numbering.auxiliaryCounts.getD place 0 =
    (TokenUse.introduced [] uses).countP (TokenUse.isNamedAfter place)
  names : ∀ name, name ∈ numbering.ids ↔ name ∈ uses.filterMap TokenUse.ruleName?
  fit : TokensFit room uses

variable {uses : List TokenUse} {numbering after : Numbering}

theorem Tabled.next (tabled : Tabled room uses numbering) :
    numbering.next = (TokenUse.table uses).length + 1 := by
  rw [Numbering.next, ← Array.length_toList, tabled.symbols, List.length_cons]

theorem Tabled.symbols_push (tabled : Tabled room uses numbering) {use : TokenUse}
    (new : use.isNew uses = true) {symbol : Symbol}
    (same : use.symbol (TokenUse.introduced [] uses) = symbol) :
    (numbering.symbols.push symbol).toList = .stop :: TokenUse.table (uses ++ [use]) := by
  rw [Array.toList_push, tabled.symbols, TokenUse.table_new new, same, List.cons_append]

theorem Tabled.tokens_push (tabled : Tabled room uses numbering) {use : TokenUse}
    (new : use.isNew uses = true) {token : Token} (made : use.IsMade token) :
    List.Forall₂ TokenUse.IsMade (TokenUse.introduced [] (uses ++ [use]))
      (numbering.tokens.push token).toList := by
  rw [TokenUse.introduced_new new, Array.toList_push]
  exact List.rel_append tabled.tokens (.cons made .nil)

/-- There is room for a token that is new exactly if it fits in behind the others. -/
theorem Tabled.fit_new (tabled : Tabled room uses numbering) {use : TokenUse}
    (new : use.isNew uses = true) :
    TokensFit room (uses ++ [use]) ↔ numbering.next < room ∧ use.IsUsable := by
  have size : (TokenUse.table (uses ++ [use])).length = numbering.next := by
    rw [TokenUse.table_new new, List.length_append, List.length_singleton, tabled.next]
  rw [TokensFit, size, List.forall_mem_append, List.forall_mem_singleton, and_comm,
    and_congr_right_iff]
  exact fun _ => and_iff_right tabled.fit.1

theorem lexical_extends (name : String) (body : Rule) (immediate : Bool) :
    Extends (Tabled room) (TokensFit room) uses [.rule name body immediate]
      (addLexicalRule room name body immediate) := by
  intro before tabled
  have new : (TokenUse.rule name body immediate).isNew uses = true := rfl
  simp only [addLexicalRule_eq_ok, tabled.fit_new new]
  -- A rule's own token is new whatever was used before, so it always takes room of its own.
  constructor
  · constructor
    · rintro ⟨_, fits, matcher, made, _⟩
      exact ⟨fits, matcher, made⟩
    · rintro ⟨fits, matcher, made⟩
      exact ⟨_, fits, matcher, made, rfl⟩
  · rintro _ ⟨fits, matcher, made, rfl⟩
    constructor
    case symbols => exact tabled.symbols_push new rfl
    case tokens => exact tabled.tokens_push new ⟨made, rfl⟩
    case literals => simpa [TokenUse.key?, nameId, withToken] using tabled.literals
    case patterns => simpa [TokenUse.key?, nameId, withToken] using tabled.patterns
    case counts =>
      intro place
      rw [TokenUse.introduced_new new, List.countP_append]
      exact tabled.counts place
    case names =>
      intro other
      rw [List.filterMap_append, List.mem_append, ← tabled.names]
      change other ∈ before.ids.insert name before.next ↔ _
      rw [Std.TreeMap.mem_insert, Std.LawfulEqCmp.compare_eq_iff_eq, or_comm]
      simp [TokenUse.ruleName?, eq_comm]
    case fit => exact (tabled.fit_new new).mpr ⟨fits, matcher, made⟩

theorem mem_literals (map : TokenIds) (text other : String) (immediate before : Bool) (id : Nat) :
    (other, before) ∈ map.insert (text, immediate) id ↔
      TokenKey.text other before = .text text immediate ∨ (other, before) ∈ map := by
  rw [Std.TreeMap.mem_insert, Std.LawfulEqCmp.compare_eq_iff_eq]
  simp [eq_comm]

theorem mem_patterns (map : TokenIds) (source other : String) (immediate before : Bool) (id : Nat) :
    (other, before) ∈ map.insert (source, immediate) id ↔
      TokenKey.pattern other before = .pattern source immediate ∨ (other, before) ∈ map := by
  rw [Std.TreeMap.mem_insert, Std.LawfulEqCmp.compare_eq_iff_eq]
  simp [eq_comm]

/-- A token that is used again changes nothing. -/
theorem Tabled.again (tabled : Tabled room uses numbering) {place : String} {body : Rule}
    {immediate : Bool} {key : TokenKey}
    (known : (TokenUse.inside place body immediate).key? = some key)
    (old : key ∈ uses.filterMap TokenUse.key?)
    (usable : (TokenUse.inside place body immediate).IsUsable) :
    Tabled room (uses ++ [.inside place body immediate]) numbering := by
  have same := TokenUse.table_old ((TokenUse.isNew_eq_false known).mpr old)
  have keys : ∀ other, other ∈ (uses ++ [TokenUse.inside place body immediate]).filterMap
      TokenUse.key? ↔
      other ∈ uses.filterMap TokenUse.key? := fun other => by
    rw [TokenUse.mem_keys known]
    exact ⟨fun found => found.elim (fun here => here ▸ old) id, Or.inr⟩
  constructor
  case symbols => rw [same, tabled.symbols]
  case tokens =>
    rw [TokenUse.introduced_old ((TokenUse.isNew_eq_false known).mpr old)]
    exact tabled.tokens
  case literals =>
    intro text before
    rw [keys, tabled.literals]
  case patterns =>
    intro source before
    rw [keys, tabled.patterns]
  case counts =>
    intro other
    rw [TokenUse.introduced_old ((TokenUse.isNew_eq_false known).mpr old), tabled.counts]
  case names =>
    intro other
    rw [tabled.names, List.filterMap_append]
    simp [TokenUse.ruleName?]
  case fit =>
    refine ⟨?_, by rw [same]; exact tabled.fit.2⟩
    rw [List.forall_mem_append, List.forall_mem_singleton]
    exact ⟨tabled.fit.1, usable⟩

/-- The numbering with a literal that is new. -/
def withLiteral (text : String) (immediate : Bool) (numbering : Numbering) : Numbering :=
  { numbering.withToken (.literal text) (.literal text) immediate with
    literalIds := numbering.literalIds.insert (text, immediate) numbering.next }

theorem addLiteral_after {text : String} {immediate : Bool} :
    (numbering.addLiteral room text immediate).map (·.2) = .ok after ↔
      ((text, immediate) ∈ numbering.literalIds ∧ after = numbering)
        ∨ ((text, immediate) ∉ numbering.literalIds ∧ numbering.next < room
          ∧ after = numbering.withLiteral text immediate) := by
  simp only [map_eq_ok, Prod.exists, addLiteral_eq_ok, Std.TreeMap.mem_iff_isSome_getElem?]
  cases numbering.literalIds[(text, immediate)]? with
  | none => simp [withLiteral, eq_comm]
  | some id => simp [eq_comm]

/-- The numbering with a pattern that is new. -/
def withPattern (place source : String) (matcher : Matcher) (immediate : Bool)
    (numbering : Numbering) : Numbering :=
  { numbering.withToken (.auxiliary (numbering.auxiliaryName place)) matcher immediate with
    auxiliaryIds := numbering.auxiliaryIds.insert (source, immediate) numbering.next
    auxiliaryCounts :=
      numbering.auxiliaryCounts.insert place (numbering.auxiliaryCounts.getD place 0 + 1)
    events := .auxiliaryToken (numbering.auxiliaryName place) source :: numbering.events }

theorem addAuxiliary_after {place : String} {body : Rule} {source : String} {immediate : Bool} :
    (numbering.addAuxiliary room place body source immediate).map (·.2) = .ok after ↔
      ((source, immediate) ∈ numbering.auxiliaryIds ∧ after = numbering)
        ∨ ((source, immediate) ∉ numbering.auxiliaryIds ∧ numbering.next < room
          ∧ ∃ matcher, tokenMatcher .standard place body = .ok matcher
            ∧ after = numbering.withPattern place source matcher immediate) := by
  simp only [map_eq_ok, Prod.exists, addAuxiliary_eq_ok, Std.TreeMap.mem_iff_isSome_getElem?]
  cases numbering.auxiliaryIds[(source, immediate)]? with
  | none => simp [withPattern, eq_comm]
  | some id => simp [eq_comm]

theorem Tabled.withLiteral (tabled : Tabled room uses numbering) {place text : String} {body : Rule}
    {immediate : Bool} (literal : body.stringText? = some text)
    (new : (TokenUse.inside place body immediate).isNew uses = true)
    (fit : TokensFit room (uses ++ [.inside place body immediate])) :
    Tabled room (uses ++ [.inside place body immediate]) (numbering.withLiteral text immediate) := by
  have known := TokenUse.key_literal place immediate literal
  constructor
  case symbols => exact tabled.symbols_push new (by simp [TokenUse.symbol, literal])
  case tokens => exact tabled.tokens_push new ⟨by simp [tokenMatcher, TokenUse.body, literal], rfl⟩
  case literals =>
    intro other before
    rw [TokenUse.mem_keys known, ← tabled.literals]
    exact mem_literals ..
  case patterns =>
    intro source before
    rw [TokenUse.mem_keys known, ← tabled.patterns]
    simp [Numbering.withLiteral, withToken]
  case counts =>
    intro other
    rw [TokenUse.introduced_new new, List.countP_append, ← tabled.counts]
    simp [TokenUse.isNamedAfter, literal, Numbering.withLiteral, withToken]
  case names =>
    intro other
    rw [List.filterMap_append, List.mem_append, ← tabled.names]
    simp [TokenUse.ruleName?, Numbering.withLiteral, withToken]
  case fit => exact fit

theorem Tabled.withPattern (tabled : Tabled room uses numbering) {place source : String} {body : Rule}
    {immediate : Bool} {matcher : Matcher} (pattern : body.stringText? = none)
    (made : body.tokenSource = .ok source) (usable : tokenMatcher .standard place body = .ok matcher)
    (new : (TokenUse.inside place body immediate).isNew uses = true)
    (fit : TokensFit room (uses ++ [.inside place body immediate])) :
    Tabled room (uses ++ [.inside place body immediate])
      (numbering.withPattern place source matcher immediate) := by
  have known := TokenUse.key_pattern place immediate pattern made
  constructor
  case symbols =>
    exact tabled.symbols_push new (by simp [TokenUse.symbol, pattern, auxiliaryName, tabled.counts])
  case tokens => exact tabled.tokens_push new ⟨usable, rfl⟩
  case literals =>
    intro text before
    rw [TokenUse.mem_keys known, ← tabled.literals]
    simp [Numbering.withPattern, withToken]
  case patterns =>
    intro other before
    rw [TokenUse.mem_keys known, ← tabled.patterns]
    exact mem_patterns ..
  case counts =>
    intro other
    rw [TokenUse.introduced_new new, List.countP_append, ← tabled.counts]
    simp only [Numbering.withPattern, withToken, Std.TreeMap.getD_insert]
    by_cases same : place = other
    · simp [TokenUse.isNamedAfter, pattern, same]
    · simp [TokenUse.isNamedAfter, pattern, same]
  case names =>
    intro other
    rw [List.filterMap_append, List.mem_append, ← tabled.names]
    simp [TokenUse.ruleName?, Numbering.withPattern, withToken]
  case fit => exact fit

theorem literal_extends {place text : String} {body : Rule} {immediate : Bool}
    (literal : body.stringText? = some text) :
    Extends (Tabled room) (TokensFit room) uses [.inside place body immediate]
      fun numbering => (numbering.addLiteral room text immediate).map (·.2) := by
  intro before tabled
  have known := TokenUse.key_literal place immediate literal
  have usable : (TokenUse.inside place body immediate).IsUsable :=
    ⟨.literal text, by rw [tokenMatcher]; simp [TokenUse.body, literal]⟩
  simp only [addLiteral_after, tabled.literals]
  by_cases old : .text text immediate ∈ uses.filterMap TokenUse.key?
  · have again := tabled.again known old usable
    exact ⟨iff_of_true ⟨before, .inl ⟨old, rfl⟩⟩ again.fit, by simpa [old] using again⟩
  · have new := (TokenUse.isNew_iff known).mpr old
    constructor
    · simp [old, tabled.fit_new new, usable]
    · rintro after (⟨shared, _⟩ | ⟨_, fits, rfl⟩)
      · exact absurd shared old
      · exact tabled.withLiteral literal new ((tabled.fit_new new).mpr ⟨fits, usable⟩)

theorem pattern_extends {place source : String} {body : Rule} {immediate : Bool}
    (pattern : body.stringText? = none) (made : body.tokenSource = .ok source) :
    Extends (Tabled room) (TokensFit room) uses [.inside place body immediate]
      fun numbering => (numbering.addAuxiliary room place body source immediate).map (·.2) := by
  intro before tabled
  have known := TokenUse.key_pattern place immediate pattern made
  simp only [addAuxiliary_after, tabled.patterns]
  by_cases old : .pattern source immediate ∈ uses.filterMap TokenUse.key?
  · -- The token was made at another place, from a body with the same pattern.
    obtain ⟨other, held, same⟩ := List.mem_filterMap.mp old
    have again := tabled.again known old ((tabled.fit.1 other held).of_key same made)
    exact ⟨iff_of_true ⟨before, .inl ⟨old, rfl⟩⟩ again.fit, by simpa [old] using again⟩
  · have new := (TokenUse.isNew_iff known).mpr old
    rw [tabled.fit_new new]
    constructor
    · constructor
      · rintro ⟨_, ⟨shared, _⟩ | ⟨_, fits, matcher, usable, _⟩⟩
        · exact absurd shared old
        · exact ⟨fits, matcher, usable⟩
      · rintro ⟨fits, matcher, usable⟩
        exact ⟨_, .inr ⟨old, fits, matcher, usable, rfl⟩⟩
    · rintro after (⟨shared, _⟩ | ⟨_, fits, matcher, usable, rfl⟩)
      · exact absurd shared old
      · exact tabled.withPattern pattern made usable new ((tabled.fit_new new).mpr ⟨fits, matcher, usable⟩)

/-- A token inside of something else is added if it can be made and there is room for it, or if it has
been added before. -/
theorem inline_extends (place : String) (token : Rule) :
    Extends (Tabled room) (TokensFit room) uses [.inside place token.tokenBody.1 token.tokenBody.2]
      fun numbering => (numbering.addInline room place token).map (·.2) := by
  rcases held : token.tokenBody with ⟨body, immediate⟩
  cases literal : body.stringText? with
  | some text =>
      have run : (fun numbering : Numbering => (numbering.addInline room place token).map (·.2)) =
          fun numbering => (numbering.addLiteral room text immediate).map (·.2) := by
        funext numbering
        simp [addInline, held, literal]
      rw [run]
      exact literal_extends literal
  | none =>
      cases made : body.tokenSource with
      | ok source =>
          have run : (fun numbering : Numbering => (numbering.addInline room place token).map (·.2)) =
              fun numbering => (numbering.addAuxiliary room place body source immediate).map (·.2) := by
            funext numbering
            simp [addInline, held, literal, made]
          rw [run]
          exact pattern_extends literal made
      | error symbol =>
          -- A reference inside of a token: the numbering stops, and no use of that token is possible.
          intro before tabled
          have unusable : ¬ (TokenUse.inside place body immediate).IsUsable := by
            rw [TokenUse.isUsable_iff]
            simp [TokenUse.body, literal, made]
          have fails (after : Numbering) :
              (before.addInline room place token).map (·.2) ≠ .ok after := by
            simp [addInline, held, literal, made, reject, Except.map]
          refine ⟨iff_of_false (not_exists.mpr fails) ?_, ?_⟩
          · exact fun fit => unusable (fit.1 _ (by simp))
          · exact fun after done => absurd done (fails after)

theorem TokensFit.admitted (items : List TokenUse) (state : Numbering) (tabled : Tabled room items state) :
    TokensFit room items :=
  tabled.fit

theorem rule_extends (entry : String × Rule) :
    Extends (Tabled room) (TokensFit room) uses (Grammar.ruleUses entry)
      (addRuleTokens room entry.1 entry.2) := by
  cases lexical : entry.2.lexicalBody? with
  | some found =>
      obtain ⟨body, immediate⟩ := found
      simp only [Grammar.ruleUses, lexical]
      intro before tabled
      rw [addRuleTokens_lexical lexical]
      exact lexical_extends entry.1 body immediate before tabled
  | none =>
      simp only [Grammar.ruleUses, lexical]
      intro before tabled
      rw [addRuleTokens_inline lexical, List.map_eq_flatMap]
      exact extends_foldlM TokensFit.admitted TokensFit.shorter _ _ _
        (fun _ token _ _ => inline_extends entry.1 token) before tabled

theorem extra_extends (extra : Rule) :
    Extends (fun uses (found : List ExtraRef × Numbering) => Tabled room uses found.2)
      (TokensFit room) uses (Grammar.extraUses extra) (addExtra room · extra) := by
  intro before tabled
  rw [Grammar.extraUses]
  cases symbol : extra.isSymbol with
  | true =>
      simp only [addExtra, symbol, if_true, List.append_nil]
      refine ⟨iff_of_true ⟨_, rfl⟩ tabled.fit, ?_⟩
      rintro after ⟨⟩
      exact tabled
  | false =>
      have inline := inline_extends "extras" extra before.2 tabled
      simp only [map_eq_ok] at inline
      simp only [addExtra_eq_ok, symbol, Bool.false_eq_true, if_false, false_and, false_or, true_and]
      rw [← inline.1]
      constructor
      · constructor
        · rintro ⟨_, id, after, added, rfl⟩
          exact ⟨after, (id, after), added, rfl⟩
        · rintro ⟨_, ⟨id, after⟩, added, rfl⟩
          exact ⟨_, id, after, added, rfl⟩
      · rintro _ ⟨id, after, added, rfl⟩
        exact inline.2 after ⟨(id, after), added, rfl⟩

theorem tabled_initial {room : Nat} (some : 0 < room) : Tabled room [] {} := by
  constructor
  case fit => exact ⟨nofun, some⟩
  all_goals simp [TokenUse.table, TokenUse.introduced, TokenUse.symbols]

end Numbering

end Treegram
