import Treegram.Event
import Treegram.Grammar.Reach

/-!
Checking grammars. A grammar has at most one reported defect, the first in a fixed
order of questions; one without a defect may still deserve remarks.
-/

namespace Treegram

/-- A part that a rule's kind needs and the rule has not. -/
inductive Lack where
  | stringValue
  | symbolName
  | fieldName
  | aliasValue
  | members
  | content
  deriving DecidableEq

def Lack.reason : Lack → String
  | stringValue => "missing string value"
  | symbolName => "missing symbol name"
  | fieldName => "missing field name"
  | aliasValue => "missing alias value"
  | members => "no members"
  | content => "missing content"

def Rule.lack? (rule : Rule) : Option Lack :=
  let lacksContent := if rule.content.isNone then some .content else none
  match rule.kind with
  | .string | .pattern => if rule.text?.isNone then some .stringValue else none
  | .symbol => if rule.name.isNone then some .symbolName else none
  | .field => if rule.name.isNone then some .fieldName else lacksContent
  | .aliased => if rule.text?.isNone then some .aliasValue else lacksContent
  | .seq | .choice => if rule.members.isEmpty then some .members else none
  | .blank => none
  | .many | .many1 | .prec | .precLeft | .precRight | .precDynamic | .token | .immediateToken
  | .reserved => lacksContent

inductive Defect where
  | noRules
  | malformed (place : String) (kind : Rule.Kind) (lack : Lack)
  | undefinedSymbol (symbol place : String)
  | undefinedWord (name : String)
  | undefinedSupertype (name : String)
  | noStartRule
  | ambiguousStartRule (candidates : List String)
  | unreachableRule (name : String)
  deriving DecidableEq

def Defect.message : Defect → String
  | noRules => "grammar has no rules"
  | malformed place kind lack =>
      "malformed " ++ kind.tag ++ " in rule '" ++ place ++ "': " ++ lack.reason
  | undefinedSymbol symbol place =>
      "undefined symbol '" ++ symbol ++ "' referenced in rule '" ++ place ++ "'"
  | undefinedWord name => "word token '" ++ name ++ "' is not a rule"
  | undefinedSupertype name => "supertype '" ++ name ++ "' is not a rule"
  | noStartRule => "no start rule: every rule is referenced by another rule"
  | ambiguousStartRule candidates =>
      "ambiguous start rule, candidates: " ++ ", ".intercalate candidates
  | unreachableRule name => "rule '" ++ name ++ "' is unreachable from the start rule"

/-- Whether the rule can begin with a reference to `target`, going by its first part alone. -/
def Rule.leadsWith (target : String) : Rule → Bool :=
  fold fun rule inner members =>
    match rule.kind with
    | .symbol => rule.symbolName? == some target
    | .seq => members.head?.getD false
    | .choice => members.any id
    | .prec | .precLeft | .precRight | .precDynamic | .field | .aliased => inner.getD false
    | _ => false

/-- The precedence levels of a rule, smallest first, each once. -/
def Rule.levels (rule : Rule) : List Int32 :=
  ascending (rule.walk.filterMap Rule.level?)

namespace Grammar

/-- The rules with the names of the places they stand in. -/
def ruleAndExtraPlaces (grammar : Grammar) : List (String × Rule) :=
  grammar.rules.toList ++ grammar.extraRules.map (("extras", ·))

def places (grammar : Grammar) : List (String × Rule) :=
  grammar.ruleAndExtraPlaces ++ grammar.externalRules.map (("externals", ·))

def malformed? (grammar : Grammar) : Option Defect :=
  grammar.places.findSome? fun (place, rule) =>
    rule.walk.findSome? fun node => node.lack?.map (Defect.malformed place node.kind)

def undefinedSymbol? (grammar : Grammar) : Option Defect :=
  let externals := grammar.externalNames
  grammar.ruleAndExtraPlaces.findSome? fun (place, rule) =>
    rule.symbolNames.findSome? fun symbol =>
      if grammar.rules.contains symbol || externals.contains symbol then none
      else some (.undefinedSymbol symbol place)

def undefinedWord? (grammar : Grammar) : Option Defect :=
  grammar.word.bind fun name =>
    if grammar.rules.contains name then none else some (.undefinedWord name)

def undefinedSupertype? (grammar : Grammar) : Option Defect :=
  grammar.supertypeNames.findSome? fun name =>
    if grammar.rules.contains name then none else some (.undefinedSupertype name)

def startDefect? (grammar : Grammar) : Option Defect :=
  match grammar.rootCandidates with
  | [] => some .noStartRule
  | [_] => none
  | candidates => some (.ambiguousStartRule candidates)

/-- The unreachable rules of a grammar that has a start rule. -/
def unreachable (grammar : Grammar) : List String :=
  (grammar.startRule?.map grammar.unreachableRules).getD []

def unreachableRule? (grammar : Grammar) : Option Defect :=
  grammar.unreachable.head?.map .unreachableRule

/-- The first defect. Rules out of reach are a defect only to the strict. -/
def defect? (strict : Bool) (grammar : Grammar) : Option Defect :=
  if grammar.rules.isEmpty then some .noRules
  else
    grammar.malformed? <|> grammar.undefinedSymbol? <|> grammar.undefinedWord?
      <|> grammar.undefinedSupertype? <|> grammar.startDefect?
      <|> if strict then grammar.unreachableRule? else none

def leftRecursiveRules (grammar : Grammar) : List String :=
  (grammar.rules.toList.filter fun entry => entry.2.leadsWith entry.1).map (·.1)

/-- What there is to say of a grammar without a defect. -/
def remarks (grammar : Grammar) : List Event :=
  grammar.unreachable.map .unreachableRule
    ++ grammar.leftRecursiveRules.map .leftRecursiveRule
    ++ grammar.rules.toList.filterMap fun (name, rule) =>
        if 1 < rule.levels.length then some (.mixedLevels name rule.levels) else none

/-- The verdict on a grammar and the remarks that go with it. -/
def check (strict : Bool) (grammar : Grammar) : Except Defect Unit × List Event :=
  match grammar.defect? strict with
  | some defect => (.error defect, [])
  | none => (.ok (), grammar.remarks)

end Grammar

end Treegram
