import Std.Data.TreeMap
import Treegram.Grammar.Defect
import Treegram.Language.Symbol
import Treegram.Language.TokenSource

/-!
Numbering the symbols of a grammar. Symbol 0 is the end of the input. Behind it come
the tokens, rule by rule with the start rule first and the others in name order, then
the tokens among the extras; the external tokens; the rules that are no tokens; and
the names that aliases give and no visible symbol has. Every number is given out
once, the next free one, as long as the room lasts.
-/

namespace Treegram

inductive LoadError where
  | defect (defect : Defect)
  | invalidPattern (rule pattern : String)
  | nonTokenSymbol (symbol rule : String)
  | tooManySymbols
  deriving DecidableEq

/-- The number of symbols that numbers of 16 bits can tell apart. -/
def symbolRoom : Nat := 65536

namespace LoadError

/-- The text of an error; for an invalid pattern, what it is without the reader's complaint. -/
def message : LoadError → String
  | defect found => found.message
  | invalidPattern _ _ => "invalid pattern"
  | nonTokenSymbol symbol rule =>
      "non-token symbol '" ++ symbol ++ "' inside token in rule '" ++ rule ++ "'"
  | tooManySymbols => "grammar needs more than " ++ toString (symbolRoom - 1) ++ " symbols"

end LoadError

/-- An error with what had happened until then. -/
structure LoadFailure where
  error : LoadError
  events : List Event

/-- Numbers of tokens by their text or pattern and by whether nothing may stand before them. -/
abbrev TokenIds : Type := Std.TreeMap (String × Bool) Nat lexOrd.compare

structure Numbering where
  symbols : Array Symbol := #[.stop]
  tokens : Array Token := #[]
  /-- The numbers of rules and external tokens. -/
  ids : Std.TreeMap String Nat := {}
  literalIds : TokenIds := {}
  auxiliaryIds : TokenIds := {}
  /-- How many tokens have been named after a rule. -/
  auxiliaryCounts : Std.TreeMap String Nat := {}
  /-- The latest comes first. -/
  events : List Event := []

/-- A matcher for the body of a token; `place` is the rule that is blamed. -/
def tokenMatcher (limits : Pattern.Limits) (place : String) (body : Rule) : Except LoadError Matcher :=
  match body.stringText? with
  | some text => .ok (.literal text)
  | none =>
      match body.tokenSource with
      | .error symbol => .error (.nonTokenSymbol symbol place)
      | .ok source =>
          match Matcher.ofPattern? limits source with
          | some matcher => .ok matcher
          | none => .error (.invalidPattern place source)

namespace Numbering

def reject {α : Type} (numbering : Numbering) (error : LoadError) : Except LoadFailure α :=
  .error ⟨error, numbering.events.reverse⟩

/-- Takes over an error that has no history yet. -/
def require {α : Type} (numbering : Numbering) : Except LoadError α → Except LoadFailure α
  | .ok result => .ok result
  | .error error => numbering.reject error

/-- The number that the next symbol gets. -/
def next (numbering : Numbering) : Nat := numbering.symbols.size

def add (room : Nat) (symbol : Symbol) (numbering : Numbering) : Except LoadFailure Numbering :=
  if numbering.next < room then
    .ok { numbering with symbols := numbering.symbols.push symbol }
  else numbering.reject .tooManySymbols

def addToken (token : Token) (numbering : Numbering) : Numbering :=
  { numbering with tokens := numbering.tokens.push token }

def nameId (name : String) (id : Nat) (numbering : Numbering) : Numbering :=
  { numbering with ids := numbering.ids.insert name id }

/-- A rule that is one token. -/
def addLexicalRule (room : Nat) (name : String) (body : Rule) (immediate : Bool)
    (numbering : Numbering) : Except LoadFailure Numbering := do
  let id := numbering.next
  let numbering ← numbering.add room (.ofRule name .terminal)
  let matcher ← numbering.require (tokenMatcher .standard name body)
  return (numbering.addToken ⟨id, matcher, immediate⟩).nameId name id

/-- Equal literals share a token. -/
def addLiteral (room : Nat) (text : String) (immediate : Bool) (numbering : Numbering) :
    Except LoadFailure (Nat × Numbering) :=
  match numbering.literalIds[(text, immediate)]? with
  | some id => .ok (id, numbering)
  | none => do
      let id := numbering.next
      let numbering ← numbering.add room (.literal text)
      let numbering := numbering.addToken ⟨id, .literal text, immediate⟩
      return (id, { numbering with literalIds := numbering.literalIds.insert (text, immediate) id })

/-- Equal patterns share a token, which is named after the place where it first occurs. -/
def addAuxiliary (room : Nat) (place : String) (body : Rule) (source : String) (immediate : Bool)
    (numbering : Numbering) : Except LoadFailure (Nat × Numbering) :=
  match numbering.auxiliaryIds[(source, immediate)]? with
  | some id => .ok (id, numbering)
  | none => do
      let count := numbering.auxiliaryCounts.getD place 0 + 1
      let name := place ++ "_token" ++ toString count
      let matcher ← numbering.require (tokenMatcher .standard place body)
      let id := numbering.next
      let numbering ← numbering.add room (.auxiliary name)
      let numbering := numbering.addToken ⟨id, matcher, immediate⟩
      return (id, { numbering with
        auxiliaryIds := numbering.auxiliaryIds.insert (source, immediate) id
        auxiliaryCounts := numbering.auxiliaryCounts.insert place count
        events := .auxiliaryToken name source :: numbering.events })

/-- A token written inside of something else. -/
def addInline (room : Nat) (place : String) (token : Rule) (numbering : Numbering) :
    Except LoadFailure (Nat × Numbering) :=
  let (body, immediate) := token.tokenBody
  match body.stringText? with
  | some text => numbering.addLiteral room text immediate
  | none =>
      match body.tokenSource with
      | .error symbol => numbering.reject (.nonTokenSymbol symbol place)
      | .ok source => numbering.addAuxiliary room place body source immediate

def addRuleTokens (room : Nat) (name : String) (rule : Rule) (numbering : Numbering) :
    Except LoadFailure Numbering :=
  match rule.lexicalBody? with
  | some (body, immediate) => numbering.addLexicalRule room name body immediate
  | none =>
      rule.inlineTokens.foldlM
        (fun numbering token => (addInline room name token numbering).map (·.2)) numbering

/-- A reference among the extras is looked up when all symbols have their numbers. -/
inductive ExtraRef where
  | id (id : Nat)
  | name (name : String)

/-- The references come last first. -/
def addExtra (room : Nat) (found : List ExtraRef × Numbering) (extra : Rule) :
    Except LoadFailure (List ExtraRef × Numbering) :=
  if extra.isSymbol then .ok (.name (extra.name.getD "") :: found.1, found.2)
  else (found.2.addInline room "extras" extra).map fun (id, numbering) => (.id id :: found.1, numbering)

/-- A rule that is a token keeps its number when an external token has its name. -/
def addExternal (room : Nat) (found : List Nat × Numbering) (external : Rule) :
    Except LoadFailure (List Nat × Numbering) :=
  match Grammar.externalName? external with
  | none => .ok found
  | some name => do
      let id := found.2.next
      let numbering ← found.2.add room (.external name external.isSymbol)
      return (id :: found.1, { numbering with ids := numbering.ids.insertIfNew name id })

/-- A rule that has no number yet. -/
def addRule (room : Nat) (isSupertype : String → Bool) (numbering : Numbering) (name : String) :
    Except LoadFailure Numbering :=
  if numbering.ids.contains name then .ok numbering
  else do
    let id := numbering.next
    let symbol := { Symbol.ofRule name .nonterminal with supertype := isSupertype name }
    return (← numbering.add room symbol).nameId name id

/-- An alias that nothing visible is called. -/
def addAlias (room : Nat) (numbering : Numbering) (spelling : String × Bool) :
    Except LoadFailure Numbering :=
  if numbering.symbols.toList.any (·.shows spelling.1 spelling.2) then .ok numbering
  else numbering.add room (.aliased spelling.1 spelling.2)

end Numbering

/-- The names that a rule gives to nodes, and whether those are named nodes. -/
def Rule.aliases (rule : Rule) : List (String × Bool) :=
  rule.walk.filterMap fun node =>
    if node.kind = .aliased then node.text?.map (·, node.named.getD false) else none

/-- The labels in a rule. -/
def Rule.fieldNames (rule : Rule) : List String :=
  rule.walk.filterMap fun node => if node.kind = .field then node.name else none

namespace Grammar

/-- The rules as they are numbered: the start rule, then the others in name order. -/
def numberedRules (grammar : Grammar) (start : String) : List (String × Rule) :=
  let (first, others) := grammar.rules.toList.partition (·.1 == start)
  first ++ others

def aliases (rules : List (String × Rule)) : List (String × Bool) :=
  (rules.flatMap (·.2.aliases)).eraseDups

/-- Field names in name order, each once. -/
def fieldNames (grammar : Grammar) : List String :=
  ascending (grammar.rules.values.flatMap Rule.fieldNames)

end Grammar

/-- What the numbering of a grammar gives. -/
structure NumberedGrammar where
  numbering : Numbering
  extras : List Nat
  externals : List Nat

/-- Numbers all symbols in `room`. -/
def Grammar.number (room : Nat) (start : String) (grammar : Grammar) :
    Except LoadFailure NumberedGrammar := do
  let rules := grammar.numberedRules start
  let numbering ← rules.foldlM
    (fun numbering rule => Numbering.addRuleTokens room rule.1 rule.2 numbering) {}
  let (extras, numbering) ← grammar.extraRules.foldlM (Numbering.addExtra room) ([], numbering)
  let (externals, numbering) ←
    grammar.externalRules.foldlM (Numbering.addExternal room) ([], numbering)
  let numbering ←
    (rules.map (·.1)).foldlM (Numbering.addRule room grammar.supertypeNames.contains) numbering
  let numbering ← (Grammar.aliases rules).foldlM (Numbering.addAlias room) numbering
  let extraId? : Numbering.ExtraRef → Option Nat
    | .id id => some id
    | .name name => numbering.ids[name]?
  return { numbering, extras := extras.reverse.filterMap extraId?, externals := externals.reverse }

end Treegram
