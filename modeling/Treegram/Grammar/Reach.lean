import Treegram.Grammar.Basic

/-!
Reachable rules. The start rule, the names in the extras and the external names are
reachable, and so is every name in a reachable rule. A worklist marks a rule when it
is put in, so each rule is taken out once and as many turns as there are rules suffice.
-/

namespace Treegram

namespace Reach

structure Work where
  marked : List String
  pending : List String

/-- Names that are no rules lead nowhere and are left out. -/
def enqueue (rules : NameMap Rule) (work : Work) (name : String) : Work :=
  if work.marked.contains name || !rules.contains name then work
  else { marked := name :: work.marked, pending := name :: work.pending }

def enqueueAll (rules : NameMap Rule) (work : Work) (names : List String) : Work :=
  names.foldl (enqueue rules) work

def successors (rules : NameMap Rule) (name : String) : List String :=
  (rules[name]?.map Rule.symbolNames).getD []

def close (rules : NameMap Rule) : Nat → Work → Work
  | 0, work => work
  | turns + 1, work =>
      match work.pending with
      | [] => work
      | name :: rest =>
          close rules turns (enqueueAll rules { work with pending := rest } (successors rules name))

/-- The rules reached from some names. -/
def reached (rules : NameMap Rule) (names : List String) : List String :=
  (close rules rules.size (enqueueAll rules ⟨[], []⟩ names)).marked

end Reach

namespace Grammar

/-- Where reachability begins. -/
def entryNames (grammar : Grammar) (start : String) : List String :=
  start :: grammar.extraRules.flatMap Rule.symbolNames ++ grammar.externalNames

/-- The rules out of reach, in name order; a rule that is to be inlined is not expected in reach. -/
def unreachableRules (grammar : Grammar) (start : String) : List String :=
  let reached := Reach.reached grammar.rules (grammar.entryNames start)
  grammar.rules.keys.filter fun name =>
    !reached.contains name && !grammar.inlinedNames.contains name

end Grammar

end Treegram
