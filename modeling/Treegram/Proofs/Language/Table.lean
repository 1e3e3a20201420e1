import Treegram.Proofs.Language.Steps
import Treegram.Proofs.Language.TokenSource

/-!
The table of symbols that a grammar needs, whether there is room for it or not: every place where
a token is used in turn, without those that use a token again, then the external tokens, the rules
that have no symbol yet, and the aliases that nothing visible is called.
-/

namespace Treegram

namespace Rule

/-! ## References in tokens -/

/-- A node of a token's body: the body itself, or a node of a member or of the content that is
matched as a part of it. -/
inductive Reaches : Rule → Rule → Prop where
  | self (rule : Rule) : Reaches rule rule
  | member {rule member node : Rule} (compound : rule.kind.isCompound = true)
      (held : member ∈ rule.members) (inside : Reaches member node) : Reaches rule node
  | content {rule inner node : Rule} (unary : rule.kind.isUnary = true)
      (held : rule.content = some inner) (inside : Reaches inner node) : Reaches rule node

/-- No reference is a part of what the rule matches. -/
def IsSymbolFree (rule : Rule) : Prop := ∀ node, rule.Reaches node → node.kind ≠ .symbol

/-- What holds of all nodes holds of the rule itself and of the nodes of its parts. -/
theorem forall_reaches_iff {rule : Rule} {holds : Rule → Prop} :
    (∀ node, rule.Reaches node → holds node) ↔ holds rule
      ∧ (rule.kind.isCompound = true →
        ∀ member ∈ rule.members, ∀ node, member.Reaches node → holds node)
      ∧ (rule.kind.isUnary = true →
        ∀ inner, rule.content = some inner → ∀ node, inner.Reaches node → holds node) := by
  constructor
  · intro all
    exact ⟨all rule (.self rule),
      fun compound member held node inside => all node (.member compound held inside),
      fun unary inner held node inside => all node (.content unary held inside)⟩
  · rintro ⟨own, members, content⟩ node reached
    cases reached with
    | self => exact own
    | member compound held inside => exact members compound _ held node inside
    | content unary held inside => exact content unary _ held node inside

theorem isSymbolFree_iff {rule : Rule} :
    rule.IsSymbolFree ↔ rule.kind ≠ .symbol
      ∧ (rule.kind.isCompound = true → ∀ member ∈ rule.members, member.IsSymbolFree)
      ∧ (rule.kind.isUnary = true → ∀ inner, rule.content = some inner → inner.IsSymbolFree) :=
  forall_reaches_iff

theorem isSymbolFree_of_blank {rule : Rule} (blank : rule.kind = .blank) : rule.IsSymbolFree := by
  rw [isSymbolFree_iff, blank]
  exact ⟨nofun, nofun, nofun⟩

theorem mapM_ok_iff {ε α β : Type} {f : α → Except ε β} {items : List α} :
    (∃ found, items.mapM f = .ok found) ↔ ∀ item ∈ items, ∃ result, f item = .ok result := by
  induction items with
  | nil => exact ⟨fun _ => nofun, fun _ => ⟨[], rfl⟩⟩
  | cons item rest ih =>
      rw [List.forall_mem_cons, ← ih, List.mapM_cons]
      cases f item with
      | error error => simp [bind, Except.bind]
      | ok result => cases rest.mapM f <;> simp [bind, Except.bind, pure, Except.pure]

theorem map_ok_iff {ε α β : Type} {first : Except ε α} {f : α → β} :
    (∃ result, first.map f = .ok result) ↔ ∃ found, first = .ok found := by
  cases first <;> simp [Except.map]

/-- The pattern of a token's body is there exactly if no reference is a part of it. -/
theorem tokenSource_ok_iff (rule : Rule) :
    (∃ source, rule.tokenSource = .ok source) ↔ rule.IsSymbolFree := by
  induction rule using childInduction with
  | step rule ih =>
      have members : (∀ member ∈ rule.members, ∃ source, member.tokenSource = .ok source) ↔
          ∀ member ∈ rule.members, member.IsSymbolFree :=
        forall₂_congr fun member held => ih member (by simp [children, held])
      have content : (∃ source, rule.contentSource = .ok source) ↔
          ∀ inner, rule.content = some inner → inner.IsSymbolFree := by
        rw [contentSource]
        cases held : rule.content with
        | none => simp
        | some inner => simpa using ih inner (by simp [children, held])
      rw [isSymbolFree_iff]
      -- Which parts are translated is told by the kind; the other parts do not matter.
      cases kind : rule.kind
      case seq =>
        rw [tokenSource_seq kind, map_ok_iff, mapM_ok_iff, members]
        simp [Kind.isCompound, Kind.isUnary]
      case choice =>
        have alternatives : (∀ member ∈ rule.members.filter (·.kind != .blank),
            ∃ source, member.tokenSource = .ok source) ↔
            ∀ member ∈ rule.members, member.IsSymbolFree := by
          rw [List.forall_mem_filter]
          refine forall₂_congr fun member held => ?_
          rw [ih member (by simp [children, held]), bne_iff_ne]
          by_cases blank : member.kind = .blank
          · exact iff_of_true (absurd blank) (isSymbolFree_of_blank blank)
          · exact ⟨fun free => free blank, fun free _ => free⟩
        rw [tokenSource_choice kind, map_ok_iff, mapM_ok_iff, alternatives]
        simp [Kind.isCompound, Kind.isUnary]
      case many =>
        rw [tokenSource_many kind, map_ok_iff, content]
        simp [Kind.isCompound, Kind.isUnary]
      case many1 =>
        rw [tokenSource_many1 kind, map_ok_iff, content]
        simp [Kind.isCompound, Kind.isUnary]
      case pattern => simp [tokenSource_pattern kind, Kind.isCompound, Kind.isUnary]
      case blank | string | symbol =>
        rw [tokenSource, fold_eq]
        simp [kind, Kind.isCompound, Kind.isUnary]
      all_goals
        rw [tokenSource_wrapper (by rw [kind]; rfl) (by simp [kind]) (by simp [kind]), content]
        simp [Kind.isCompound, Kind.isUnary]

end Rule

/-! ## Where tokens are used -/

/-- What tells tokens inside of other things apart: the text or the pattern, and whether nothing may
stand before them. -/
inductive TokenKey where
  | text (text : String) (immediate : Bool)
  | pattern (source : String) (immediate : Bool)
  deriving DecidableEq

/-- A place where a token is used: a rule that is one, or a token inside of a rule or an extra. -/
inductive TokenUse where
  | rule (name : String) (body : Rule) (immediate : Bool)
  | inside (place : String) (body : Rule) (immediate : Bool)

namespace TokenUse

def place : TokenUse → String
  | .rule name _ _ => name
  | .inside place _ _ => place

def body : TokenUse → Rule
  | .rule _ body _ => body
  | .inside _ body _ => body

/-- A rule that is a token is never shared. A body without a pattern has no key. -/
def key? : TokenUse → Option TokenKey
  | .rule _ _ _ => none
  | .inside _ body immediate =>
      match body.stringText? with
      | some text => some (.text text immediate)
      | none => body.tokenSource.toOption.map (.pattern · immediate)

/-- Whether the token has not been used before. -/
def isNew (earlier : List TokenUse) (use : TokenUse) : Bool :=
  use.key?.all fun key => !(earlier.filterMap key?).contains key

/-- The uses of tokens that have not been used before. -/
def introduced (earlier : List TokenUse) : List TokenUse → List TokenUse
  | [] => []
  | use :: rest => (if use.isNew earlier then [use] else []) ++ introduced (earlier ++ [use]) rest

/-- Whether the token is named after this place. -/
def isNamedAfter (place : String) : TokenUse → Bool
  | .rule _ _ _ => false
  | .inside other body _ => other == place && body.stringText?.isNone

/-- The symbol of a token: a rule gives its name, a literal its text, and a pattern is numbered among
those of the same place. -/
def symbol (earlier : List TokenUse) : TokenUse → Symbol
  | .rule name _ _ => .ofRule name .terminal
  | .inside place body _ =>
      match body.stringText? with
      | some text => .literal text
      | none =>
          .auxiliary (place ++ "_token" ++ toString (earlier.countP (isNamedAfter place) + 1))

/-- The symbols of tokens, each used for the first time. -/
def symbols (earlier : List TokenUse) : List TokenUse → List Symbol
  | [] => []
  | use :: rest => use.symbol earlier :: symbols (earlier ++ [use]) rest

/-- The symbols that come of the uses of tokens. -/
def table (uses : List TokenUse) : List Symbol := symbols [] (introduced [] uses)

end TokenUse

/-- The symbol of an external token. One that declares nothing has none. -/
def externalSymbol? (external : Rule) : Option Symbol :=
  (Grammar.externalName? external).map (Symbol.external · external.isSymbol)

namespace Grammar

/-- The uses of tokens in a rule. -/
def ruleUses (entry : String × Rule) : List TokenUse :=
  match entry.2.lexicalBody? with
  | some (body, immediate) => [.rule entry.1 body immediate]
  | none => entry.2.inlineTokens.map fun token =>
      .inside entry.1 token.tokenBody.1 token.tokenBody.2

/-- The use of a token by an extra; a reference uses none. -/
def extraUses (extra : Rule) : List TokenUse :=
  if extra.isSymbol then [] else [.inside "extras" extra.tokenBody.1 extra.tokenBody.2]

variable (grammar : Grammar)

def tokenUses (start : String) : List TokenUse :=
  (grammar.numberedRules start).flatMap ruleUses ++ grammar.extraRules.flatMap extraUses

/-- The names that tokens and external tokens have taken. -/
def takenNames : List String :=
  (grammar.rules.toList.filter (·.2.lexicalBody?.isSome)).map (·.1) ++ grammar.externalNames

/-- The symbols of the rules that are no tokens, in the order of the rules. -/
def ruleSymbols (start : String) : List Symbol :=
  (((grammar.numberedRules start).map (·.1)).filter fun name => !grammar.takenNames.contains name).map
    (Numbering.ruleSymbol grammar.supertypeNames.contains)

/-- All symbols but those of aliases. -/
def ownSymbols (start : String) : List Symbol :=
  .stop :: (TokenUse.table (grammar.tokenUses start)
    ++ (grammar.externalRules.filterMap externalSymbol? ++ grammar.ruleSymbols start))

/-- The aliases that no other visible symbol is called. -/
def aliasSymbols (start : String) : List Symbol :=
  ((Grammar.aliases (grammar.numberedRules start)).filter fun spelling =>
    !(grammar.ownSymbols start).any (·.shows spelling.1 spelling.2)).map
    fun spelling => .aliased spelling.1 spelling.2

/-- The table of symbols that the grammar needs. -/
def symbolTable : List Symbol :=
  let start := grammar.startRule?.getD ""
  grammar.ownSymbols start ++ grammar.aliasSymbols start

/-- The bodies of tokens: of rules that are one, of tokens inside of the other rules, and of the extras
that are no references. -/
inductive TokenBody : Rule → Prop where
  | rule {name : String} {rule body : Rule} {immediate : Bool}
      (found : grammar.rules[name]? = some rule) (lexical : rule.lexicalBody? = some (body, immediate)) :
      TokenBody body
  | inside {name : String} {rule token : Rule} (found : grammar.rules[name]? = some rule)
      (inner : rule.lexicalBody? = none) (held : token ∈ rule.inlineTokens) :
      TokenBody token.tokenBody.1
  | extra {extra : Rule} (found : extra ∈ grammar.extraRules) (token : extra.isSymbol = false) :
      TokenBody extra.tokenBody.1

/-- All that is asked of a grammar to be loaded. -/
structure IsLoadable (strict : Bool) : Prop where
  sound : (grammar.check strict).1 = .ok ()
  symbolFree : ∀ body, grammar.TokenBody body → body.IsSymbolFree
  compiles : ∀ body, grammar.TokenBody body → body.stringText? = none →
    ∀ source, body.tokenSource = .ok source → (Matcher.ofPattern? .standard source).isSome = true
  fits : grammar.symbolTable.length ≤ 65536

end Grammar

end Treegram
