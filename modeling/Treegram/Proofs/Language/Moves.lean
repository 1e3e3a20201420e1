import Mathlib.Logic.Relation
import Treegram.Proofs.Language.RuleSymbols
import Treegram.Proofs.Language.TokenMeaning

/-!
All that ever happens to a numbering. Every phase is a run of the same few moves, each of which adds one
symbol, so what the moves keep is kept from the first symbol to the last: the names that are kept for
later lead to symbols of rules and external tokens, and the tokens that are shared are there to be
found.
-/

namespace Treegram

open Relation (ReflTransGen)

theorem tokenMatcher_source {limits : Pattern.Limits} {place source : String} {body : Rule}
    {matcher : Matcher} (other : body.stringText? = none) (made : body.tokenSource = .ok source) :
    tokenMatcher limits place body = .ok matcher ↔ Matcher.ofPattern? limits source = some matcher := by
  rw [tokenMatcher, other]
  simp only [made]
  cases Matcher.ofPattern? limits source <;> simp

namespace Numbering

/-- One symbol more, and what is kept of it. -/
inductive Move (numbering : Numbering) : Numbering → Prop where
  | lexicalRule (name : String) (matcher : Matcher) (immediate : Bool) :
      Move numbering
        ((numbering.withToken (.ofRule name .terminal) matcher immediate).nameId name numbering.next)
  | literal (text : String) (immediate : Bool) :
      Move numbering (numbering.withLiteral text immediate)
  | pattern (place source : String) (matcher : Matcher) (immediate : Bool)
      (made : Matcher.ofPattern? .standard source = some matcher) :
      Move numbering (numbering.withPattern place source matcher immediate)
  | external (name : String) (named : Bool) :
      Move numbering
        { numbering with
          symbols := numbering.symbols.push (.external name named)
          ids := numbering.ids.insertIfNew name numbering.next }
  | rule (isSupertype : String → Bool) (name : String) :
      Move numbering
        { numbering with
          symbols := numbering.symbols.push (ruleSymbol isSupertype name)
          ids := numbering.ids.insert name numbering.next }
  | aliased (spelling : String × Bool) :
      Move numbering
        { numbering with symbols := numbering.symbols.push (.aliased spelling.1 spelling.2) }

variable {room : Nat} {numbering before after : Numbering}

/-! ## The phases as runs of moves -/

theorem foldlM_moves {α β : Type} (view : β → Numbering) {step : β → α → Except LoadFailure β}
    (moves : ∀ item before after, step before item = .ok after →
      ReflTransGen Move (view before) (view after))
    {items : List α} {first last : β} (done : items.foldlM step first = .ok last) :
    ReflTransGen Move (view first) (view last) :=
  @foldlM_keeps _ _ _ (fun state => ReflTransGen Move (view first) (view state)) step items
    (fun item _ before after run stepped => run.trans (moves item before after stepped)) _ _ .refl done

theorem addInline_moves {place : String} {token : Rule} {id : Nat}
    (done : numbering.addInline room place token = .ok (id, after)) :
    ReflTransGen Move numbering after := by
  rw [addInline_eq_ok] at done
  rcases done with ⟨text, _, literal⟩ | ⟨other, source, made, auxiliary⟩
  · rw [addLiteral_eq_ok] at literal
    rcases literal with ⟨_, rfl⟩ | ⟨_, _, _, rfl⟩
    · exact .refl
    · exact .single (.literal text token.tokenBody.2)
  · rw [addAuxiliary_eq_ok] at auxiliary
    rcases auxiliary with ⟨_, rfl⟩ | ⟨_, _, _, matcher, usable, rfl⟩
    · exact .refl
    · exact .single (.pattern place source matcher token.tokenBody.2
        ((tokenMatcher_source other made).mp usable))

theorem addRuleTokens_moves {name : String} {rule : Rule}
    (done : numbering.addRuleTokens room name rule = .ok after) :
    ReflTransGen Move numbering after := by
  cases lexical : rule.lexicalBody? with
  | some found =>
      rw [addRuleTokens_lexical lexical, addLexicalRule_eq_ok] at done
      obtain ⟨_, matcher, _, rfl⟩ := done
      exact .single (.lexicalRule name matcher found.2)
  | none =>
      rw [addRuleTokens_inline lexical] at done
      refine foldlM_moves id (fun token before after added => ?_) done
      rw [map_eq_ok] at added
      obtain ⟨⟨id, after⟩, added, rfl⟩ := added
      exact addInline_moves added

theorem addExtra_moves {found after : List ExtraRef × Numbering} {extra : Rule}
    (done : addExtra room found extra = .ok after) : ReflTransGen Move found.2 after.2 := by
  rw [addExtra_eq_ok] at done
  rcases done with ⟨_, rfl⟩ | ⟨_, id, after, added, rfl⟩
  · exact .refl
  · exact addInline_moves added

theorem addExternal_moves {found after : List Nat × Numbering} {external : Rule}
    (done : addExternal room found external = .ok after) : ReflTransGen Move found.2 after.2 := by
  rw [addExternal_eq_ok] at done
  rcases done with ⟨_, rfl⟩ | ⟨_, name, _, rfl⟩
  · exact .refl
  · exact .single (.external name external.isSymbol)

theorem addRule_moves {isSupertype : String → Bool} {name : String}
    (done : numbering.addRule room isSupertype name = .ok after) :
    ReflTransGen Move numbering after := by
  rw [addRule_eq_ok] at done
  rcases done with ⟨_, rfl⟩ | ⟨_, _, rfl⟩
  · exact .refl
  · exact .single (.rule isSupertype name)

theorem addAlias_moves {spelling : String × Bool}
    (done : numbering.addAlias room spelling = .ok after) : ReflTransGen Move numbering after := by
  rw [addAlias_eq_ok] at done
  rcases done with ⟨_, rfl⟩ | ⟨_, _, rfl⟩
  · exact .refl
  · exact .single (.aliased spelling)

/-! ## What the moves keep -/

theorem keeps_moves (Holds : Numbering → Prop)
    (keeps : ∀ before after, Holds before → Move before after → Holds after)
    (run : ReflTransGen Move before after) (holds : Holds before) : Holds after := by
  induction run with
  | refl => exact holds
  | tail _ move ih => exact keeps _ _ ih move

theorem mem_ids_moves {name : String} (run : ReflTransGen Move before after)
    (known : name ∈ before.ids) : name ∈ after.ids := by
  refine keeps_moves (name ∈ ·.ids) (fun before after known move => ?_) run known
  cases move with
  | lexicalRule | rule => exact Std.TreeMap.mem_insert.mpr (.inr known)
  | external => exact Std.TreeMap.mem_insertIfNew.mpr (.inr known)
  | literal | pattern | aliased => exact known

theorem mem_tokens_moves {token : Token} (run : ReflTransGen Move before after)
    (held : token ∈ before.tokens) : token ∈ after.tokens := by
  refine keeps_moves (token ∈ ·.tokens) (fun before after held move => ?_) run held
  cases move with
  | lexicalRule | literal | pattern => exact Array.mem_push_of_mem _ held
  | external | rule | aliased => exact held

/-- A name that is kept for later leads to a symbol of this name, which is one of a rule or of an
external token. -/
def NamesLead (numbering : Numbering) : Prop :=
  ∀ (name : String) (id : Nat), numbering.ids[name]? = some id →
    ∃ symbol, numbering.symbols[id]? = some symbol ∧ symbol.name = name
      ∧ (symbol.isRule = true ∨ symbol.kind = .external)

/-- The new symbol may take a name if it is its own. -/
theorem NamesLead.push (lead : numbering.NamesLead) (symbol : Symbol)
    (pushed : after.symbols = numbering.symbols.push symbol)
    (ids : ∀ name id, after.ids[name]? = some id → numbering.ids[name]? = some id
      ∨ (symbol.name = name ∧ id = numbering.next ∧ (symbol.isRule = true ∨ symbol.kind = .external))) :
    after.NamesLead := by
  intro name id found
  rw [pushed]
  rcases ids name id found with earlier | ⟨named, rfl, own⟩
  · obtain ⟨held, here, named⟩ := lead name id earlier
    exact ⟨held, getElem_push_of_some here symbol, named⟩
  · exact ⟨symbol, by rw [Numbering.next, Array.getElem?_push_size], named, own⟩

section Insert
variable {α : Type} {cmp : α → α → Ordering} [Std.TransCmp cmp] [Std.LawfulEqCmp cmp]
  {map : Std.TreeMap α Nat cmp} {key other : α} {number id : Nat}

theorem getElem_insert_cases (found : (map.insert key number)[other]? = some id) :
    map[other]? = some id ∨ (key = other ∧ id = number) := by
  rw [Std.TreeMap.getElem?_insert] at found
  split at found
  · rename_i same
    exact .inr ⟨Std.LawfulEqCmp.compare_eq_iff_eq.mp same, (Option.some.inj found).symm⟩
  · exact .inl found

theorem getElem_insertIfNew_cases (found : (map.insertIfNew key number)[other]? = some id) :
    map[other]? = some id ∨ (key = other ∧ id = number) := by
  rw [Std.TreeMap.getElem?_insertIfNew] at found
  split at found
  · rename_i same
    exact .inr ⟨Std.LawfulEqCmp.compare_eq_iff_eq.mp same.1, (Option.some.inj found).symm⟩
  · exact .inl found

end Insert

theorem namesLead_moves (run : ReflTransGen Move before after) (lead : before.NamesLead) :
    after.NamesLead := by
  refine keeps_moves NamesLead (fun before after lead move => ?_) run lead
  cases move with
  | lexicalRule | rule =>
      refine lead.push _ rfl fun other id found => ?_
      exact (getElem_insert_cases found).imp_right fun own => ⟨own.1, own.2, .inl rfl⟩
  | external =>
      refine lead.push _ rfl fun other id found => ?_
      exact (getElem_insertIfNew_cases found).imp_right fun own => ⟨own.1, own.2, .inr rfl⟩
  | literal | pattern | aliased => exact lead.push _ rfl fun _ _ found => .inl found

/-- Only the rules that are no tokens are marked as supertypes. -/
theorem supertypes_moves (run : ReflTransGen Move before after)
    (marks : ∀ symbol ∈ before.symbols, symbol.supertype = true → symbol.kind = .nonterminal) :
    ∀ symbol ∈ after.symbols, symbol.supertype = true → symbol.kind = .nonterminal := by
  refine keeps_moves
    (fun numbering => ∀ symbol ∈ numbering.symbols, symbol.supertype = true → symbol.kind = .nonterminal)
    (fun before after marks move => ?_) run marks
  have push (symbol : Symbol) (own : symbol.supertype = true → symbol.kind = .nonterminal) :
      ∀ other ∈ before.symbols.push symbol, other.supertype = true → other.kind = .nonterminal := by
    intro other held
    rcases Array.mem_push.mp held with earlier | rfl
    · exact marks other earlier
    · exact own
  cases move with
  | rule => exact push _ fun _ => rfl
  | lexicalRule | literal | pattern | external | aliased => exact push _ nofun

/-- The numbers by which tokens are shared are those of tokens with this text or pattern. -/
structure SharesTokens (numbering : Numbering) : Prop where
  literals : ∀ (text : String) (immediate : Bool) (id : Nat),
    numbering.literalIds[(text, immediate)]? = some id → ⟨id, .literal text, immediate⟩ ∈ numbering.tokens
  patterns : ∀ (source : String) (immediate : Bool) (id : Nat),
    numbering.auxiliaryIds[(source, immediate)]? = some id →
      ∃ matcher, Matcher.ofPattern? .standard source = some matcher
        ∧ ⟨id, matcher, immediate⟩ ∈ numbering.tokens

theorem sharesTokens_moves (run : ReflTransGen Move before after) (shares : before.SharesTokens) :
    after.SharesTokens := by
  refine keeps_moves SharesTokens (fun before after shares move => ?_) run shares
  -- Whatever is shared so far is still there when there is a token more.
  have stays (token : Token) (held : token ∈ before.tokens) : token ∈ after.tokens :=
    mem_tokens_moves (.single move) held
  have literals (text : String) (immediate : Bool) (id : Nat)
      (found : before.literalIds[(text, immediate)]? = some id) :
      ⟨id, .literal text, immediate⟩ ∈ after.tokens :=
    stays _ (shares.literals text immediate id found)
  have patterns (source : String) (immediate : Bool) (id : Nat)
      (found : before.auxiliaryIds[(source, immediate)]? = some id) :
      ∃ matcher, Matcher.ofPattern? .standard source = some matcher
        ∧ ⟨id, matcher, immediate⟩ ∈ after.tokens := by
    obtain ⟨matcher, made, held⟩ := shares.patterns source immediate id found
    exact ⟨matcher, made, stays _ held⟩
  cases move with
  | lexicalRule | external | rule | aliased => exact ⟨literals, patterns⟩
  | literal =>
      refine ⟨fun text immediate id found => ?_, patterns⟩
      rcases getElem_insert_cases found with earlier | ⟨same, rfl⟩
      · exact literals text immediate id earlier
      · obtain ⟨rfl, rfl⟩ := Prod.mk.inj same
        exact Array.mem_push_self
  | pattern place source matcher immediate made =>
      refine ⟨literals, fun other before id found => ?_⟩
      rcases getElem_insert_cases found with earlier | ⟨same, rfl⟩
      · exact patterns other before id earlier
      · obtain ⟨rfl, rfl⟩ := Prod.mk.inj same
        exact ⟨matcher, made, Array.mem_push_self⟩

/-- Whether it is new or has been there, the number that is answered for a token is its own. -/
theorem addInline_token (shares : numbering.SharesTokens) {place : String} {token : Rule} {id : Nat}
    (done : numbering.addInline room place token = .ok (id, after)) :
    ∃ made ∈ after.tokens, made.symbol = id
      ∧ (TokenUse.inside place token.tokenBody.1 token.tokenBody.2).IsMade made := by
  rw [addInline_eq_ok] at done
  rcases done with ⟨text, literal, added⟩ | ⟨other, source, translated, added⟩
  · have matcher : tokenMatcher .standard place token.tokenBody.1 = .ok (.literal text) :=
      tokenMatcher_string literal
    rw [addLiteral_eq_ok] at added
    rcases added with ⟨shared, rfl⟩ | ⟨_, _, rfl, rfl⟩
    · exact ⟨_, shares.literals text _ id shared, rfl, matcher, rfl⟩
    · exact ⟨_, Array.mem_push_self, rfl, matcher, rfl⟩
  · rw [addAuxiliary_eq_ok] at added
    rcases added with ⟨shared, rfl⟩ | ⟨_, _, rfl, matcher, made, rfl⟩
    · obtain ⟨matcher, made, held⟩ := shares.patterns source _ id shared
      exact ⟨_, held, rfl, (tokenMatcher_source other translated).mpr made, rfl⟩
    · exact ⟨_, Array.mem_push_self, rfl, made, rfl⟩

end Numbering

/-! ## What the names of a grammar lead to -/

namespace Grammar
variable {grammar : Grammar} {start : String} {room : Nat} {numbered : NumberedGrammar}

open Treegram.Numbering

theorem rules_moves {isSupertype : String → Bool} {names : List String}
    {spellings : List (String × Bool)} {beforeRules beforeAliases after : Numbering}
    (rules : names.foldlM (addRule room isSupertype) beforeRules = .ok beforeAliases)
    (aliases : spellings.foldlM (addAlias room) beforeAliases = .ok after) :
    ReflTransGen Move beforeRules after :=
  (foldlM_moves id (fun _ _ _ done => addRule_moves done) rules).trans
    (foldlM_moves id (fun _ _ _ done => addAlias_moves done) aliases)

theorem number_moves (done : grammar.number room start = .ok numbered) :
    ReflTransGen Move {} numbered.numbering := by
  rw [number_eq_ok] at done
  obtain ⟨ruleTokens, references, tokens, externals, beforeRules, beforeAliases, after, first, second,
    third, fourth, fifth, rfl⟩ := done
  have first : ReflTransGen Move {} ruleTokens :=
    foldlM_moves id (fun _ _ _ done => addRuleTokens_moves done) first
  have second : ReflTransGen Move ruleTokens tokens :=
    foldlM_moves (·.2) (fun _ _ _ done => addExtra_moves done) second
  have third : ReflTransGen Move tokens beforeRules :=
    foldlM_moves (·.2) (fun _ _ _ done => addExternal_moves done) third
  exact first.trans (second.trans (third.trans (rules_moves fourth fifth)))

theorem number_namesLead (done : grammar.number room start = .ok numbered) :
    numbered.numbering.NamesLead :=
  namesLead_moves (number_moves done) fun name id found => by simp at found

/-- External tokens have a number as soon as they are added. -/
theorem addExternal_known {externals : List Rule} {external : Rule} {found after : List Nat × Numbering}
    (known : ∀ name ∈ externals.filterMap externalName?, name ∈ found.2.ids)
    (done : addExternal room found external = .ok after) :
    ∀ name ∈ (externals ++ [external]).filterMap externalName?, name ∈ after.2.ids := by
  rw [List.filterMap_append, List.forall_mem_append]
  refine ⟨fun name held => mem_ids_moves (addExternal_moves done) (known name held), ?_⟩
  rw [addExternal_eq_ok] at done
  rcases done with ⟨nameless, _⟩ | ⟨_, name, named, rfl⟩
  · simp [nameless]
  · simp [named]

/-- Whatever a reference may refer to is known in the end. -/
theorem number_knows (done : grammar.number room start = .ok numbered) {name : String}
    (defined : grammar.Defines name) : name ∈ numbered.numbering.ids := by
  rcases defined with rule | external
  · refine (number_names done).2 name (mem_numberedNames.mpr ?_)
    exact Option.isSome_iff_exists.mp (Std.ExtTreeMap.mem_iff_isSome_getElem?.mp rule)
  · rw [number_eq_ok] at done
    obtain ⟨ruleTokens, references, tokens, externals, beforeRules, beforeAliases, after, _, _, third,
      fourth, fifth, rfl⟩ := done
    have known : ∀ name ∈ ([] ++ grammar.externalRules).filterMap externalName?,
        name ∈ beforeRules.ids :=
      foldlM_reaches (fun externals (found : List Nat × Numbering) =>
          ∀ name ∈ externals.filterMap externalName?, name ∈ found.2.ids)
        (fun _ _ _ _ known done => addExternal_known known done) (List.forall_mem_nil _) third
    -- Rules and aliases come later, and no name is forgotten.
    exact mem_ids_moves (rules_moves fourth fifth) (known name (mem_externalNames.mpr external))

theorem number_defines (done : grammar.number room start = .ok numbered) {name : String}
    (defined : grammar.Defines name) : ∃ id, numbered.numbering.ids[name]? = some id :=
  Option.isSome_iff_exists.mp (Std.TreeMap.mem_iff_isSome_getElem?.mp (number_knows done defined))

/-- A symbol of a rule has its number under the name of the rule. -/
theorem number_ofRule (root : grammar.startRule? = some start)
    (done : grammar.number symbolRoom start = .ok numbered) {id : Nat} {symbol : Symbol}
    (here : numbered.numbering.symbols.toList[id]? = some symbol) (rule : symbol.isRule = true) :
    numbered.numbering.ids[symbol.name]? = some id := by
  have distinct := numberedRules_distinct root
  have table := number_contents (by decide) distinct done
  have distinct := keptNames_nodup distinct
  rw [← table.rules] at distinct
  obtain ⟨other, found, known, there, stands⟩ :=
    number_rulesKept done symbol (List.mem_of_getElem? here) rule
  rw [← Array.getElem?_toList] at there
  rw [place_unique distinct here there (Symbol.standsFor_iff.mpr ⟨rule, rfl⟩) stands, known]

/-- A rule that keeps its name has its symbol under that name. -/
theorem number_keepsName (root : grammar.startRule? = some start)
    (done : grammar.number symbolRoom start = .ok numbered) {name : String} {id : Nat}
    (keeps : grammar.KeepsName name) (found : numbered.numbering.ids[name]? = some id) :
    ∃ symbol, numbered.numbering.symbols[id]? = some symbol ∧ symbol.isRule = true := by
  have table := number_contents (by decide) (numberedRules_distinct root) done
  rw [← mem_keptNames start, ← table.rules] at keeps
  -- It has kept a symbol somewhere, and that is where its name leads.
  obtain ⟨symbol, held, rfl⟩ := List.mem_map.mp keeps
  obtain ⟨held, rule⟩ := List.mem_filter.mp held
  obtain ⟨other, here⟩ := List.mem_iff_getElem?.mp held
  obtain rfl := Option.some.inj (found.symm.trans (number_ofRule root done here rule))
  exact ⟨symbol, Array.getElem?_toList ▸ here, rule⟩

end Grammar

theorem Language.mem_supertypes {grammar : Grammar} {start : String} {numbered : NumberedGrammar}
    {version id : Nat} :
    id ∈ (ofNumbered grammar start numbered version).supertypes ↔
      ∃ name ∈ grammar.supertypeNames, numbered.numbering.ids[name]? = some id :=
  mem_ascending.trans List.mem_filterMap

end Treegram
