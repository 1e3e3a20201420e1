import Treegram.Grammar.Basic

/-!
Drafts: grammars while they are put together. Setting a property again replaces
it, conflict groups add up, and a rule name keeps its first rule; the first name
that was given a second rule is remembered and spoils the draft at its end.
-/

namespace Treegram

structure Draft where
  grammar : Grammar
  repeated : Option String := none

namespace Draft

/-- One step of putting a grammar together. -/
inductive Step where
  | rule (name : String) (rule : Rule)
  | rules (rules : List (String × Rule))
  | extras (rules : List Rule)
  | externals (rules : List Rule)
  | inlined (names : List String)
  | supertypes (names : List String)
  | word (name : String)
  | conflict (names : List String)

def addRule (draft : Draft) (name : String) (rule : Rule) : Draft :=
  if draft.grammar.rules.contains name then
    { draft with repeated := draft.repeated.or (some name) }
  else
    { draft with grammar := { draft.grammar with rules := draft.grammar.rules.insert name rule } }

def addRules (draft : Draft) (rules : List (String × Rule)) : Draft :=
  rules.foldl (fun draft rule => draft.addRule rule.1 rule.2) draft

/-- Changes what is declared beside the rules. -/
def declare (draft : Draft) (change : Grammar → Grammar) : Draft :=
  { draft with grammar := change draft.grammar }

def apply (draft : Draft) : Step → Draft
  | .rule name rule => draft.addRule name rule
  | .rules rules => draft.addRules rules
  | .extras rules => draft.declare ({ · with extras := some rules })
  | .externals rules => draft.declare ({ · with externals := some rules })
  | .inlined names => draft.declare ({ · with inlined := some names })
  | .supertypes names => draft.declare ({ · with supertypes := some names })
  | .word name => draft.declare ({ · with word := some name })
  | .conflict names =>
      draft.declare fun grammar =>
        { grammar with conflicts := some (grammar.conflicts.getD [] ++ [names]) }

end Draft

/-- A rule name was given two rules. -/
structure DuplicateRule where
  name : String
  deriving DecidableEq

def DuplicateRule.message (duplicate : DuplicateRule) : String :=
  "rule '" ++ duplicate.name ++ "' is defined more than once"

def Draft.finish (draft : Draft) : Except DuplicateRule Grammar :=
  match draft.repeated with
  | some name => .error ⟨name⟩
  | none => .ok draft.grammar

def Grammar.assemble (name : String) (steps : List Draft.Step) : Except DuplicateRule Grammar :=
  (steps.foldl Draft.apply { grammar := { name } }).finish

end Treegram
