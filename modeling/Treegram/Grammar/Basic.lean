import Treegram.Ordered
import Treegram.Rule.Basic

/-!
Grammars: named rules and what is declared about them, and which names a grammar
declares and refers to. Parsing starts from the one rule that nothing refers to.
-/

namespace Treegram

structure Grammar where
  name : String
  schema : Option String := none
  inherits : Option String := none
  rules : NameMap Rule := ∅
  extras : Option (List Rule) := none
  externals : Option (List Rule) := none
  inlined : Option (List String) := none
  precedences : Option (List (List Rule)) := none
  conflicts : Option (List (List String)) := none
  reserved : Option (NameMap (List Rule)) := none
  word : Option String := none
  supertypes : Option (List String) := none
  deriving DecidableEq

namespace Grammar

def extraRules (grammar : Grammar) : List Rule := grammar.extras.getD []

def externalRules (grammar : Grammar) : List Rule := grammar.externals.getD []

def supertypeNames (grammar : Grammar) : List String := grammar.supertypes.getD []

def inlinedNames (grammar : Grammar) : List String := grammar.inlined.getD []

/-- A reference declares its name and a literal its text; other rules declare no token. -/
def externalName? (rule : Rule) : Option String := rule.symbolName?.or rule.stringText?

/-- In the order of declaration, which is the order a scanner counts them in. -/
def externalNames (grammar : Grammar) : List String :=
  grammar.externalRules.filterMap externalName?

def isDefined (grammar : Grammar) (name : String) : Bool :=
  grammar.rules.contains name || grammar.externalNames.contains name

/-- All names that something in the grammar refers to. -/
def referencedNames (grammar : Grammar) : List String :=
  ascending <|
    (grammar.rules.values ++ grammar.extraRules ++ grammar.externalRules).flatMap Rule.symbolNames
      ++ grammar.inlinedNames ++ grammar.supertypeNames ++ grammar.word.toList

/-- The rules that nothing refers to, in name order. -/
def rootCandidates (grammar : Grammar) : List String :=
  let referenced := grammar.referencedNames
  grammar.rules.keys.filter fun name => !referenced.contains name

def startRule? (grammar : Grammar) : Option String :=
  match grammar.rootCandidates with
  | [only] => some only
  | _ => none

end Grammar

end Treegram
