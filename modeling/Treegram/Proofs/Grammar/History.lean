import Mathlib.Data.List.Induction
import Mathlib.Data.List.Nodup
import Treegram.Proofs.Grammar.Assembly

/-!
Drafts told by their steps. What comes of a draft can be read off the steps it was made by: the pairs
they bring, the last word on each property, the groups of all conflicts in their order. The first pair
whose name has been brought before spoils the draft, whatever comes behind it.
-/

namespace Treegram

namespace Draft

/-! ## Repeated names -/

section Repeated
variable {pairs : List (String × Rule)}

/-- The pair at a place has a name that a pair in front of it has already. -/
def Repeats (pairs : List (String × Rule)) (place : Nat) (name : String) : Prop :=
  ∃ rule, pairs[place]? = some (name, rule) ∧ name ∈ (pairs.take place).map (·.1)

/-- The name of the earliest pair that repeats a name. -/
def FirstRepeated (pairs : List (String × Rule)) (name : String) : Prop :=
  ∃ place, Repeats pairs place name ∧ ∀ earlier < place, ∀ other, ¬ Repeats pairs earlier other

theorem Repeats.lt {place : Nat} {name : String} (repeats : Repeats pairs place name) :
    place < pairs.length := by
  obtain ⟨rule, found, _⟩ := repeats
  exact (List.getElem?_eq_some_iff.mp found).1

/-- Whether a pair repeats a name does not depend on the pairs behind it. -/
theorem repeats_append {place : Nat} (inside : place < pairs.length) (more : List (String × Rule))
    (name : String) : Repeats (pairs ++ more) place name ↔ Repeats pairs place name := by
  rw [Repeats, Repeats, List.getElem?_append_left inside,
    List.take_append_of_le_length (Nat.le_of_lt inside)]

theorem FirstRepeated.append {name : String} (first : FirstRepeated pairs name)
    (more : List (String × Rule)) : FirstRepeated (pairs ++ more) name := by
  obtain ⟨place, repeats, earliest⟩ := first
  refine ⟨place, (repeats_append repeats.lt more name).mpr repeats, fun earlier before other => ?_⟩
  rw [repeats_append (Nat.lt_trans before repeats.lt)]
  exact earliest earlier before other

theorem FirstRepeated.unique {name other : String} (first : FirstRepeated pairs name)
    (second : FirstRepeated pairs other) : name = other := by
  obtain ⟨place, ⟨rule, found, shared⟩, earliest⟩ := first
  obtain ⟨spot, ⟨body, held, known⟩, soonest⟩ := second
  rcases Nat.lt_trichotomy place spot with before | same | behind
  · exact absurd ⟨rule, found, shared⟩ (soonest place before name)
  · rw [same, held] at found
    exact (Prod.mk.inj (Option.some.inj found)).1.symm
  · exact absurd ⟨body, held, known⟩ (earliest spot behind other)

theorem not_repeats (distinct : (pairs.map (·.1)).Nodup) (place : Nat) (name : String) :
    ¬ Repeats pairs place name := by
  rintro ⟨rule, found, known⟩
  obtain ⟨inside, here⟩ := List.getElem?_eq_some_iff.mp found
  have parts : pairs.map (·.1) =
      (pairs.take place).map (·.1) ++ name :: (pairs.drop (place + 1)).map (·.1) := by
    conv_lhs => rw [← List.take_append_drop place pairs, List.drop_eq_getElem_cons inside, here]
    rw [List.map_append, List.map_cons]
  rw [parts, List.nodup_append] at distinct
  exact distinct.2.2 name known name List.mem_cons_self rfl

theorem FirstRepeated.not_distinct {name : String} (first : FirstRepeated pairs name) :
    ¬ (pairs.map (·.1)).Nodup := by
  intro distinct
  obtain ⟨place, repeats, _⟩ := first
  exact not_repeats distinct place name repeats

/-- Behind distinct names, the first one that is known already. -/
theorem firstRepeated_last {pair : String × Rule} (distinct : (pairs.map (·.1)).Nodup)
    (known : pair.1 ∈ pairs.map (·.1)) : FirstRepeated (pairs ++ [pair]) pair.1 := by
  refine ⟨pairs.length, ⟨pair.2, ?_, ?_⟩, fun earlier before other => ?_⟩
  · rw [List.getElem?_concat_length]
  · rwa [List.take_left]
  · rw [repeats_append before]
    exact not_repeats distinct earlier other

end Repeated

/-! ## Rules that were added -/

/-- What a draft keeps of the pairs that were added to it. -/
structure Keeps (pairs : List (String × Rule)) (draft : Draft) : Prop where
  names : ∀ name, name ∈ draft.grammar.rules ↔ name ∈ pairs.map (·.1)
  distinct : draft.repeated = none → (pairs.map (·.1)).Nodup
  repeated : ∀ name, draft.repeated = some name → FirstRepeated pairs name

section Keeps
variable {pairs : List (String × Rule)} {draft : Draft}

theorem Keeps.addRule (keeps : Keeps pairs draft) (pair : String × Rule) :
    Keeps (pairs ++ [pair]) (draft.addRule pair.1 pair.2) := by
  have brought (name : String) :
      name ∈ (pairs ++ [pair]).map (·.1) ↔ name ∈ pairs.map (·.1) ∨ name = pair.1 := by simp
  rw [Draft.addRule]
  split
  · -- A known name leaves the rules alone and is remembered, unless an earlier one is.
    rename_i contained
    have known : pair.1 ∈ pairs.map (·.1) :=
      (keeps.names pair.1).mp (Std.ExtTreeMap.contains_iff_mem.mp contained)
    refine ⟨fun name => ?_, fun none => ?_, fun name found => ?_⟩
    · rw [brought]
      exact ⟨fun held => .inl ((keeps.names name).mp held),
        fun held => (keeps.names name).mpr (held.elim id (· ▸ known))⟩
    · cases former : draft.repeated <;> simp [former] at none
    · cases former : draft.repeated with
      | none =>
          obtain rfl : pair.1 = name := by simpa [former] using found
          exact firstRepeated_last (keeps.distinct former) known
      | some first =>
          obtain rfl : first = name := by simpa [former] using found
          exact (keeps.repeated first former).append [pair]
  · rename_i absent
    have fresh : pair.1 ∉ pairs.map (·.1) := fun known =>
      absent (Std.ExtTreeMap.contains_iff_mem.mpr ((keeps.names pair.1).mpr known))
    refine ⟨fun name => ?_, fun none => ?_, fun name found => (keeps.repeated name found).append [pair]⟩
    · rw [brought, Std.ExtTreeMap.mem_insert, Std.LawfulEqOrd.compare_eq_iff_eq, keeps.names, or_comm,
        eq_comm]
    · rw [List.map_append, List.nodup_append]
      refine ⟨keeps.distinct none, List.nodup_singleton _, fun name known other last same => ?_⟩
      rw [same, List.mem_singleton.mp last] at known
      exact fresh known

theorem Keeps.addRules (keeps : Keeps pairs draft) (more : List (String × Rule)) :
    Keeps (pairs ++ more) (draft.addRules more) := by
  induction more generalizing pairs draft with
  | nil => rwa [List.append_nil]
  | cons pair rest ih =>
      rw [List.append_cons]
      exact ih (keeps.addRule pair)

theorem Keeps.apply (keeps : Keeps pairs draft) (step : Step) :
    Keeps (pairs ++ step.entries) (draft.apply step) := by
  cases step with
  | rule name body => exact keeps.addRule (name, body)
  | rules more => exact keeps.addRules more
  | extras | externals | inlined | supertypes | word | conflict =>
      simp only [Step.entries, List.append_nil]
      exact ⟨keeps.names, keeps.distinct, keeps.repeated⟩

theorem Keeps.steps (keeps : Keeps pairs draft) (steps : List Step) :
    Keeps (pairs ++ entries steps) (steps.foldl Draft.apply draft) := by
  induction steps generalizing pairs draft with
  | nil => rwa [entries, List.flatMap_nil, List.append_nil]
  | cons step rest ih =>
      rw [entries, List.flatMap_cons, ← List.append_assoc]
      exact ih (keeps.apply step)

end Keeps

theorem keeps_nothing (name : String) : Keeps [] { grammar := { name } } where
  names _ := by simp
  distinct _ := List.nodup_nil
  repeated := nofun

/-! ## Properties that were set -/

def Step.extras? : Step → Option (List Rule)
  | .extras list => some list
  | _ => none

def Step.externals? : Step → Option (List Rule)
  | .externals list => some list
  | _ => none

def Step.inlined? : Step → Option (List String)
  | .inlined names => some names
  | _ => none

def Step.supertypes? : Step → Option (List String)
  | .supertypes names => some names
  | _ => none

def Step.word? : Step → Option String
  | .word name => some name
  | _ => none

def Step.conflict? : Step → Option (List String)
  | .conflict names => some names
  | _ => none

/-- What the last step of a sort has set, if there is one. -/
def lastSet {α : Type} (set? : Step → Option α) (steps : List Step) : Option α :=
  (steps.filterMap set?).getLast?

/-- The groups of all conflicts. -/
def conflictGroups (steps : List Step) : List (List String) := steps.filterMap Step.conflict?

/-- A grammar with the name it was given, in which all else but the rules is as the steps have set it. -/
structure Declares (name : String) (steps : List Step) (grammar : Grammar) : Prop where
  name : grammar.name = name
  extras : grammar.extras = lastSet Step.extras? steps
  externals : grammar.externals = lastSet Step.externals? steps
  inlined : grammar.inlined = lastSet Step.inlined? steps
  supertypes : grammar.supertypes = lastSet Step.supertypes? steps
  word : grammar.word = lastSet Step.word? steps
  conflicts : grammar.conflicts = if conflictGroups steps = [] then none else some (conflictGroups steps)
  schema : grammar.schema = none
  inherits : grammar.inherits = none
  precedences : grammar.precedences = none
  reserved : grammar.reserved = none

theorem lastSet_append {α : Type} (set? : Step → Option α) (steps : List Step) (step : Step) :
    lastSet set? (steps ++ [step]) = (set? step).or (lastSet set? steps) := by
  rw [lastSet, List.filterMap_append, List.getLast?_append, lastSet]
  cases found : set? step <;> simp [found]

theorem conflictGroups_append (steps : List Step) (step : Step) :
    conflictGroups (steps ++ [step]) = conflictGroups steps ++ step.conflict?.toList := by
  rw [conflictGroups, List.filterMap_append]
  cases found : step.conflict? <;> simp [found, conflictGroups]

theorem Declares.declare {name : String} {steps : List Step} {grammar : Grammar}
    (declares : Declares name steps grammar) (step : Step) :
    Declares name (steps ++ [step]) (step.declare grammar) := by
  -- Only a conflict looks at what was set before.
  have groups : grammar.conflicts.getD [] = conflictGroups steps := by
    rw [declares.conflicts]
    split <;> simp_all
  cases step <;> constructor
  case conflict.conflicts => simp [Step.declare, groups, conflictGroups_append, Step.conflict?]
  all_goals simp [Step.declare, lastSet_append, conflictGroups_append, Step.extras?, Step.externals?,
    Step.inlined?, Step.supertypes?, Step.word?, Step.conflict?, declares.name, declares.extras,
    declares.externals, declares.inlined, declares.supertypes, declares.word, declares.conflicts,
    declares.schema, declares.inherits, declares.precedences, declares.reserved]

theorem declares_declared (name : String) (steps : List Step) :
    Declares name steps (declared name steps) := by
  induction steps using List.reverseRecOn with
  | nil => constructor <;> rfl
  | append_singleton steps step ih =>
      rw [declared, List.foldl_append]
      exact ih.declare step

/-- A grammar that holds the pairs of its steps and what they have set, and nothing else. -/
structure Describes (name : String) (steps : List Step) (grammar : Grammar) : Prop
    extends Declares name steps grammar where
  rules : ∀ key rule, grammar.rules[key]? = some rule ↔ (key, rule) ∈ entries steps

theorem Describes.unique {name : String} {steps : List Step} {grammar other : Grammar}
    (first : Describes name steps grammar) (second : Describes name steps other) : grammar = other := by
  have rules : grammar.rules = other.rules := by
    apply Std.ExtTreeMap.ext_getElem?
    intro key
    apply Option.ext
    intro rule
    rw [first.rules, second.rules]
  obtain ⟨⟨rfl, _, _, _, _, _, _, _, _, _, _⟩, _⟩ := first
  obtain ⟨⟨_, _, _, _, _, _, _, _, _, _, _⟩, _⟩ := second
  cases grammar
  cases other
  simp_all

end Draft

namespace Grammar

theorem describes_assembled {name : String} {steps : List Draft.Step}
    (distinct : ((Draft.entries steps).map (·.1)).Nodup) :
    Draft.Describes name steps ((Draft.declared name steps).withRules (Draft.entries steps)) :=
  have declares := Draft.declares_declared name steps
  { toDeclares := { declares with }
    rules := getElem_ofList distinct }

theorem assemble_repeated (name : String) {steps : List Draft.Step}
    (repeated : ¬ ((Draft.entries steps).map (·.1)).Nodup) :
    ∃ duplicate, assemble name steps = .error duplicate
      ∧ Draft.FirstRepeated (Draft.entries steps) duplicate.name := by
  have keeps := (Draft.keeps_nothing name).steps steps
  rw [List.nil_append] at keeps
  rw [assemble, Draft.finish]
  cases found : (steps.foldl Draft.apply { grammar := { name } }).repeated with
  | none => exact absurd (keeps.distinct found) repeated
  | some first => exact ⟨⟨first⟩, rfl, keeps.repeated first found⟩

/-- Whatever steps are taken, a grammar comes of them just if no name is brought twice, and then it holds
all their pairs, what each property was set to last and all conflict groups. If a name is brought twice,
the name of the earliest pair that repeats one is told, whatever steps come later. -/
theorem assemble_history (name : String) (steps : List Draft.Step) :
    ((∃ duplicate, assemble name steps = .error duplicate) ↔
        ¬ ((Draft.entries steps).map (·.1)).Nodup)
      ∧ (∀ duplicate, assemble name steps = .error duplicate ↔
        Draft.FirstRepeated (Draft.entries steps) duplicate.name)
      ∧ ∀ grammar, assemble name steps = .ok grammar ↔
        ((Draft.entries steps).map (·.1)).Nodup ∧ Draft.Describes name steps grammar := by
  by_cases distinct : ((Draft.entries steps).map (·.1)).Nodup
  · have made : assemble name steps = _ := assemble_distinct distinct
    have described : Draft.Describes name steps _ := describes_assembled distinct
    refine ⟨?_, fun duplicate => ?_, fun grammar => ?_⟩
    · simp [made, distinct]
    · rw [made]
      exact ⟨nofun, fun first => absurd distinct first.not_distinct⟩
    · rw [made, Except.ok.injEq]
      exact ⟨fun same => ⟨distinct, same ▸ described⟩, fun other => described.unique other.2⟩
  · obtain ⟨⟨first⟩, made, repeated⟩ := assemble_repeated name distinct
    refine ⟨?_, fun duplicate => ?_, fun grammar => ?_⟩
    · simp [made, distinct]
    · rw [made, Except.error.injEq]
      exact ⟨fun same => same ▸ repeated, fun other => congrArg DuplicateRule.mk (repeated.unique other)⟩
    · rw [made]
      exact ⟨nofun, fun other => absurd other.1 distinct⟩

end Grammar

end Treegram
