import Treegram.Grammar.Draft
import Treegram.Proofs.Grammar.RoundTrip

/-!
Grammars put together in different orders. A grammar is told by the pairs it holds, not by the order
they came in: steps that name each rule once give the grammar of all their pairs, and so does a text
that lists them.
-/

namespace Treegram

open Json (Value)

namespace Grammar

/-- A grammar with other rules. -/
def withRules (grammar : Grammar) (pairs : List (String × Rule)) : Grammar :=
  { grammar with rules := .ofList pairs }

end Grammar

/-! ## Maps of pairs -/

section Pairs
variable {α : Type} {pairs listed : List (String × α)}

theorem distinct_keys (distinct : (pairs.map (·.1)).Nodup) :
    pairs.Pairwise fun pair other => ¬ compare pair.1 other.1 = .eq := by
  rw [List.Nodup, List.pairwise_map] at distinct
  exact distinct.imp fun apart same => apart (Std.LawfulEqOrd.eq_of_compare same)

/-- What a map of pairs with distinct names holds. -/
theorem getElem_ofList (distinct : (pairs.map (·.1)).Nodup) (key : String) (content : α) :
    (Std.ExtTreeMap.ofList pairs : NameMap α)[key]? = some content ↔ (key, content) ∈ pairs := by
  constructor
  · intro found
    have member : key ∈ pairs.map (·.1) := by
      by_contra absent
      rw [Std.ExtTreeMap.getElem?_ofList_of_contains_eq_false (by simpa using absent)] at found
      cases found
    obtain ⟨⟨_, other⟩, held, rfl⟩ := List.mem_map.mp member
    rw [Std.ExtTreeMap.getElem?_ofList_of_mem Std.ReflCmp.compare_self (distinct_keys distinct) held,
      Option.some.injEq] at found
    rwa [← found]
  · exact Std.ExtTreeMap.getElem?_ofList_of_mem Std.ReflCmp.compare_self (distinct_keys distinct)

theorem ofList_perm (distinct : (pairs.map (·.1)).Nodup) (perm : pairs.Perm listed) :
    (Std.ExtTreeMap.ofList pairs : NameMap α) = .ofList listed := by
  apply Std.ExtTreeMap.ext_getElem?
  intro key
  apply Option.ext
  intro content
  rw [getElem_ofList distinct, getElem_ofList ((perm.map (·.1)).nodup distinct), perm.mem_iff]

theorem toList_ofList (distinct : (pairs.map (·.1)).Nodup) :
    pairs.Perm (Std.ExtTreeMap.ofList pairs : NameMap α).toList := by
  have nodup {entries : List (String × α)}
      (apart : entries.Pairwise fun pair other => ¬ compare pair.1 other.1 = .eq) : entries.Nodup :=
    apart.imp fun differ same => differ (by rw [same]; exact Std.ReflCmp.compare_self)
  rw [List.perm_ext_iff_of_nodup (nodup (distinct_keys distinct))
    (nodup Std.ExtTreeMap.distinct_keys_toList)]
  rintro ⟨key, content⟩
  rw [Std.ExtTreeMap.mem_toList_iff_getElem?_eq_some, getElem_ofList distinct]

end Pairs

/-! ## Drafts -/

namespace Draft

/-- The pairs of names and rules that a step brings. -/
def Step.entries : Step → List (String × Rule)
  | .rule name body => [(name, body)]
  | .rules pairs => pairs
  | _ => []

/-- What a step does to what is declared beside the rules. -/
def Step.declare (grammar : Grammar) : Step → Grammar
  | .rule _ _ | .rules _ => grammar
  | .extras list => { grammar with extras := some list }
  | .externals list => { grammar with externals := some list }
  | .inlined names => { grammar with inlined := some names }
  | .supertypes names => { grammar with supertypes := some names }
  | .word name => { grammar with word := some name }
  | .conflict names => { grammar with conflicts := some (grammar.conflicts.getD [] ++ [names]) }

def entries (steps : List Step) : List (String × Rule) := steps.flatMap Step.entries

/-- What steps declare beside the rules. -/
def declared (name : String) (steps : List Step) : Grammar := steps.foldl Step.declare { name }

/-- The draft of a grammar with these rules in which nothing is repeated. -/
def holding (grammar : Grammar) (rules : NameMap Rule) : Draft :=
  { grammar := { grammar with rules } }

variable {grammar : Grammar} {rules : NameMap Rule}

theorem addRule_holding {pair : String × Rule} (fresh : pair.1 ∉ rules) :
    (holding grammar rules).addRule pair.1 pair.2 =
      holding grammar (rules.insert pair.1 pair.2) := by
  have absent : (holding grammar rules).grammar.rules.contains pair.1 = false := by
    rw [Bool.eq_false_iff]
    exact fun held => fresh (Std.ExtTreeMap.contains_iff_mem.mp held)
  rw [addRule, if_neg (by rw [absent]; decide)]
  rfl

/-- Names that are not in a map and differ from each other. -/
structure Fresh (rules : NameMap Rule) (pairs : List (String × Rule)) : Prop where
  absent : ∀ pair ∈ pairs, pair.1 ∉ rules
  distinct : (pairs.map (·.1)).Nodup

theorem Fresh.cons {pair : String × Rule} {rest : List (String × Rule)}
    (fresh : Fresh rules (pair :: rest)) :
    pair.1 ∉ rules ∧ Fresh (rules.insert pair.1 pair.2) rest := by
  obtain ⟨absent, distinct⟩ := fresh
  rw [List.map_cons, List.nodup_cons] at distinct
  refine ⟨absent pair List.mem_cons_self, ⟨fun other found held => ?_, distinct.2⟩⟩
  rcases Std.ExtTreeMap.mem_insert.mp held with same | held
  · rw [Std.LawfulEqOrd.eq_of_compare same] at distinct
    exact distinct.1 (List.mem_map_of_mem found)
  · exact absent other (List.mem_cons_of_mem pair found) held

theorem addRules_holding {pairs : List (String × Rule)} (fresh : Fresh rules pairs) :
    (holding grammar rules).addRules pairs = holding grammar (rules.insertMany pairs) := by
  induction pairs generalizing rules with
  | nil => rw [Std.ExtTreeMap.insertMany_nil]; rfl
  | cons pair rest ih =>
      obtain ⟨absent, behind⟩ := fresh.cons
      rw [addRules, List.foldl_cons, addRule_holding absent, Std.ExtTreeMap.insertMany_cons]
      exact ih behind

theorem Fresh.append {pairs more : List (String × Rule)} (fresh : Fresh rules (pairs ++ more)) :
    Fresh rules pairs ∧ Fresh (rules.insertMany pairs) more := by
  induction pairs generalizing rules with
  | nil =>
      rw [Std.ExtTreeMap.insertMany_nil]
      exact ⟨⟨nofun, List.nodup_nil⟩, fresh⟩
  | cons pair rest ih =>
      obtain ⟨absent, behind⟩ := Fresh.cons fresh
      obtain ⟨first, second⟩ := ih behind
      rw [Std.ExtTreeMap.insertMany_cons]
      refine ⟨⟨?_, ?_⟩, second⟩
      · exact fun other found => fresh.absent other (List.mem_append_left more found)
      · have distinct := fresh.distinct
        rw [List.map_append, List.nodup_append] at distinct
        exact distinct.1

/-- Steps that name each rule once build up what they declare and hold the pairs they bring. -/
theorem apply_holding {steps : List Step} (fresh : Fresh rules (entries steps)) :
    steps.foldl apply (holding grammar rules) =
      holding (steps.foldl Step.declare grammar) (rules.insertMany (entries steps)) := by
  -- What the rest brings has to be new to the rules as this step leaves them.
  induction steps generalizing grammar rules with
  | nil => rw [entries, List.flatMap_nil, Std.ExtTreeMap.insertMany_nil]; rfl
  | cons step rest ih =>
      rw [entries, List.flatMap_cons] at fresh
      obtain ⟨here, behind⟩ := fresh.append
      have applied : (holding grammar rules).apply step =
          holding (step.declare grammar) (rules.insertMany step.entries) := by
        cases step with
        | rule _ _ | rules _ => exact addRules_holding here
        | extras _ | externals _ | inlined _ | supertypes _ | word _ | conflict _ =>
            rw [Step.entries, Std.ExtTreeMap.insertMany_nil]
            · rfl
            all_goals exact nofun
      rw [List.foldl_cons, applied, ih behind, List.foldl_cons, entries, entries, List.flatMap_cons,
        Std.ExtTreeMap.insertMany_append]

end Draft

namespace Grammar

theorem assemble_distinct {name : String} {steps : List Draft.Step}
    (distinct : ((Draft.entries steps).map (·.1)).Nodup) :
    assemble name steps = .ok ((Draft.declared name steps).withRules (Draft.entries steps)) := by
  have fresh : Draft.Fresh ∅ (Draft.entries steps) :=
    ⟨fun _ _ => Std.ExtTreeMap.not_mem_empty, distinct⟩
  have start : ({ grammar := { name } } : Draft) = Draft.holding { name } ∅ := rfl
  rw [assemble, start, Draft.apply_holding fresh, ← Std.ExtTreeMap.ofList_eq_insertMany_empty]
  rfl

/-! ## Texts -/

/-- The tree that the reader makes of a text. -/
def tree? (text : String) : Option Value :=
  Place.layout.read? .grammar (Json.Scalar.tag text.toList)

/-- A text that lists rules in this order. With an empty list it would tell of everything else as
`base` does. -/
structure Listing (base : Grammar) (order : List (String × Rule)) where
  text : String
  front : List (String × Value)
  entries : List (String × Value)
  back : List (String × Value)
  tree : tree? text = some (.object (front ++ ("rules", .object entries) :: back))
  last : ∀ member ∈ back, member.1 ≠ "rules"
  others : decode? (.object (front ++ ("rules", .object []) :: back)) = some (base.withRules [])
  rules : (entries.mapM fun member => (Rule.decode? member.2).map ((member.1, ·))) = some order

namespace Partial

def withRules (part : Partial) (rules : NameMap Rule) : Partial := { part with rules := some rules }

/-- No other member looks at the rules. -/
theorem take_withRules (part : Partial) (rules : NameMap Rule) {key : String} (value : Value)
    (other : key ≠ "rules") :
    (part.withRules rules).take key value = (part.take key value).map (·.withRules rules) := by
  unfold take
  split
  case h_4 => exact absurd rfl other
  case h_13 => rfl
  all_goals rw [Option.map_map]; rfl

theorem takeAll_withRules {members : List (String × Value)}
    (others : ∀ member ∈ members, member.1 ≠ "rules") (part : Partial) (rules : NameMap Rule) :
    takeAll (part.withRules rules) members = (takeAll part members).map (·.withRules rules) := by
  induction members generalizing part with
  | nil => rfl
  | cons member rest ih =>
      have behind := ih fun other held => others other (List.mem_cons_of_mem member held)
      rw [takeAll, List.foldlM_cons, take_withRules _ _ _ (others member List.mem_cons_self),
        takeAll, List.foldlM_cons]
      cases part.take member.1 member.2 with
      | none => rfl
      | some taken => exact behind taken

end Partial

theorem decode_entries {front back entries : List (String × Value)} {order : List (String × Rule)}
    (last : ∀ member ∈ back, member.1 ≠ "rules")
    (rules : (entries.mapM fun member => (Rule.decode? member.2).map ((member.1, ·))) = some order) :
    decode? (.object (front ++ ("rules", .object entries) :: back)) =
      ((takeAll {} front).bind (takeAll · back)).bind fun part =>
        (part.withRules (.ofList order)).finish := by
  have read : Value.map? Rule.decode? (.object entries) = some (.ofList order) := by
    rw [Value.map?, rules, Option.map_some]
  have taken (part : Partial) : takeAll part [("rules", .object entries)] =
      some (part.withRules (.ofList order)) := by
    apply takeAll_one
    rw [Partial.take, read]
    rfl
  have whole : decode? (.object (front ++ ("rules", .object entries) :: back)) =
      (takeAll {} (front ++ ([("rules", .object entries)] ++ back))).bind Partial.finish := rfl
  rw [whole, takeAll_append, Option.bind_assoc, Option.bind_assoc]
  congr 1
  funext part
  rw [takeAll_append, taken, Option.bind_some, Partial.takeAll_withRules last, Option.bind_map]
  rfl

theorem Listing.read {base : Grammar} {order : List (String × Rule)} (listing : Listing base order) :
    read? listing.text = some (base.withRules order) := by
  obtain ⟨text, front, entries, back, tree, last, others, rules⟩ := listing
  have parsed : read? text = (tree? text).bind decode? := rfl
  -- What comes of the other members is the same whatever rules are listed.
  rw [decode_entries last (List.mapM_nil)] at others
  rw [parsed, tree, Option.bind_some, decode_entries last rules]
  cases taken : (takeAll {} front).bind (takeAll · back) with
  | none => rw [taken] at others; cases others
  | some part =>
      rw [taken, Option.bind_some] at others
      obtain ⟨name, held, rest⟩ := part
      cases name with
      | none => cases others
      | some name =>
          have same := congrArg (·.withRules order) (Option.some.inj others)
          exact congrArg some same

/-- The text that would be written of a grammar if its rules came in this order. -/
def listedText (base : Grammar) (order : List (String × Rule)) : String :=
  String.ofList (Value.object (base.listedMembers Rule.Value.bare order)).chars

theorem writtenPart_key {α : Type} {key : String} {encode : α → Value} {part : Option α} :
    ∀ member ∈ writtenPart key encode part, member.1 = key := by
  cases part with
  | none => exact List.forall_mem_nil _
  | some content => exact List.forall_mem_singleton.mpr rfl

/-- The rules stand between members that do not depend on them. -/
theorem listedMembers_split (base : Grammar) (scalar : Rule.Value → Value) :
    ∃ front back, (∀ member ∈ back, member.1 ≠ "rules") ∧ ∀ order,
      base.listedMembers scalar order =
        front ++ ("rules", .object (order.map fun entry => (entry.1, Rule.encode scalar entry.2)))
          :: back := by
  let rules (list : List Rule) : Value := .array (list.map (Rule.encode scalar))
  refine ⟨writtenPart "$schema" .string base.schema ++ [("name", .string base.name)]
      ++ writtenPart "inherits" .string base.inherits,
    writtenPart "extras" rules base.extras ++ writtenPart "externals" rules base.externals
      ++ writtenPart "inline" encodeNames base.inlined
      ++ writtenPart "precedences" (fun levels => .array (levels.map rules)) base.precedences
      ++ writtenPart "conflicts" (fun groups => .array (groups.map encodeNames)) base.conflicts
      ++ writtenPart "reserved" (encodeMap rules) base.reserved
      ++ writtenPart "word" .string base.word
      ++ writtenPart "supertypes" encodeNames base.supertypes, ?last, fun order => ?split⟩
  case split => simp only [listedMembers, List.append_assoc, List.singleton_append]; rfl
  case last =>
    simp only [List.forall_mem_append]
    refine ⟨⟨⟨⟨⟨⟨⟨?_, ?_⟩, ?_⟩, ?_⟩, ?_⟩, ?_⟩, ?_⟩, ?_⟩
    all_goals
      intro member held
      rw [writtenPart_key member held]
      decide

/-- In whatever order rules come, there is a text that lists them so. -/
theorem exists_listing (base : Grammar) (order : List (String × Rule)) :
    ∃ listing : Listing base order, listing.text = base.listedText order := by
  obtain ⟨front, back, last, split⟩ := base.listedMembers_split Rule.Value.tagged
  have tree : tree? (base.listedText order) =
      some (.object (base.listedMembers Rule.Value.tagged order)) := by
    rw [tree?, listedText, String.toList_ofList, tag_listed,
      Json.Layout.read_chars (Place.legible_listed order base)]
  have others := decode_listed [] base
  have rules : (order.map fun entry => (entry.1, Rule.encode Rule.Value.tagged entry.2)).mapM
      (fun member => (Rule.decode? member.2).map ((member.1, ·))) = some order :=
    mapM_read fun entry _ => by rw [Rule.decode_encode, Option.map_some]
  rw [split] at tree others
  exact ⟨⟨_, front, _, back, tree, last, others, rules⟩, rfl⟩

/-! ## Grammars from rules in some order -/

/-- The ways to build a grammar from rules in some order, with everything else as `base` has it. -/
inductive Source (base : Grammar) (order : List (String × Rule)) where
  | steps (taken : List Draft.Step)
      (declared : Draft.declared base.name taken = base.withRules [])
      (entries : Draft.entries taken = order)
  | text (listing : Listing base order)

def Source.grammar? {base : Grammar} {order : List (String × Rule)} :
    Source base order → Option Grammar
  | .steps taken _ _ => (assemble base.name taken).toOption
  | .text listing => read? listing.text

/-- Whichever way it is built, it is the grammar with these rules. -/
theorem Source.grammar_eq {base : Grammar} {order : List (String × Rule)}
    (distinct : (order.map (·.1)).Nodup) (source : Source base order) :
    source.grammar? = some (base.withRules order) := by
  cases source with
  | steps taken declared entries =>
      have made : assemble base.name taken = _ := assemble_distinct (entries ▸ distinct)
      have same := congrArg (·.withRules order) declared
      rw [grammar?, made, entries]
      exact congrArg some same
  | text listing => exact listing.read

theorem withRules_perm {pairs listed : List (String × Rule)} (base : Grammar)
    (distinct : (pairs.map (·.1)).Nodup) (perm : pairs.Perm listed) :
    base.withRules pairs = base.withRules listed := by
  rw [withRules, withRules, ofList_perm distinct perm]

end Grammar

end Treegram
