import Mathlib.Data.List.Basic
import Treegram.Proofs.Grammar.Assembly
import Treegram.Proofs.Grammar.Verdict
import Treegram.Proofs.Language.Layout

/-!
Loading does not depend on the order of rules. A grammar may be walked in any order: the walk below
takes its rules as a table without an order lists them, and sorts names just where loading does. Of
every walk the same comes as of the one in name order, up to which of several defects of one kind is
named.
-/

namespace Treegram

/-- An order in which the rules of a grammar and the names of its supertypes may be walked. -/
structure Walk (grammar : Grammar) where
  rules : List (String × Rule)
  complete : rules.Perm grammar.rules.toList
  supertypes : List String
  same : ∀ name, name ∈ supertypes ↔ name ∈ grammar.supertypeNames

/-- The walk in name order. -/
def Grammar.nameOrder (grammar : Grammar) : Walk grammar where
  rules := grammar.rules.toList
  complete := .refl _
  supertypes := grammar.supertypeNames
  same _ := Iff.rfl

/-- Names in ascending order. -/
def sorted (names : List String) : List String := names.mergeSort fun a b => (compare a b).isLE

namespace Walk
variable {grammar : Grammar} (walk : Walk grammar)

/-! ## Checking along a walk -/

def names : List String := walk.rules.map (·.1)

def ruleAndExtraPlaces : List (String × Rule) :=
  walk.rules ++ grammar.extraRules.map (("extras", ·))

def malformed? : Option Defect :=
  (walk.ruleAndExtraPlaces ++ grammar.externalRules.map (("externals", ·))).findSome?
    fun (place, rule) =>
      rule.walk.findSome? fun node => node.lack?.map (Defect.malformed place node.kind)

def undefinedSymbol? : Option Defect :=
  walk.ruleAndExtraPlaces.findSome? fun (place, rule) =>
    rule.symbolNames.findSome? fun symbol =>
      if walk.names.contains symbol || grammar.externalNames.contains symbol then none
      else some (.undefinedSymbol symbol place)

def referencedNames : List String :=
  ascending <|
    (walk.rules.map (·.2) ++ grammar.extraRules ++ grammar.externalRules).flatMap Rule.symbolNames
      ++ grammar.inlinedNames ++ grammar.supertypeNames ++ grammar.word.toList

def rootCandidates : List String :=
  sorted (walk.names.filter fun name => !walk.referencedNames.contains name)

def startDefect? : Option Defect :=
  match walk.rootCandidates with
  | [] => some .noStartRule
  | [_] => none
  | candidates => some (.ambiguousStartRule candidates)

def startRule? : Option String :=
  match walk.rootCandidates with
  | [only] => some only
  | _ => none

/-- The rules out of reach of a start rule; those that are to be inlined are passed over last. -/
def unreachableRules (start : String) : List String :=
  let reached := Reach.reached grammar.rules (grammar.entryNames start)
  (sorted (walk.names.filter fun name => !reached.contains name)).filter
    fun name => !grammar.inlinedNames.contains name

def unreachableRule? : Option Defect :=
  ((walk.startRule?.map walk.unreachableRules).getD []).head?.map .unreachableRule

def defect? (strict : Bool) : Option Defect :=
  if grammar.rules.isEmpty then some .noRules
  else
    walk.malformed? <|> walk.undefinedSymbol? <|> grammar.undefinedWord?
      <|> grammar.undefinedSupertype? <|> walk.startDefect?
      <|> if strict then walk.unreachableRule? else none

/-! ## Numbering along a walk -/

/-- The start rule, then the others, sorted by their names and looked up. -/
def numberedRules (start : String) : List (String × Rule) :=
  (start :: sorted (walk.names.filter (· != start))).filterMap fun name =>
    grammar.rules[name]?.map (name, ·)

def fieldNames : List String := ascending (walk.rules.flatMap (·.2.fieldNames))

def number (room : Nat) (start : String) : Except LoadFailure NumberedGrammar := do
  let rules := walk.numberedRules start
  let numbering ← rules.foldlM
    (fun numbering rule => Numbering.addRuleTokens room rule.1 rule.2 numbering) {}
  let (extras, numbering) ← grammar.extraRules.foldlM (Numbering.addExtra room) ([], numbering)
  let (externals, numbering) ←
    grammar.externalRules.foldlM (Numbering.addExternal room) ([], numbering)
  let numbering ←
    (rules.map (·.1)).foldlM (Numbering.addRule room walk.supertypes.contains) numbering
  let numbering ← (Grammar.aliases rules).foldlM (Numbering.addAlias room) numbering
  return {
    numbering
    extras := extras.reverse.filterMap (Numbering.ExtraRef.resolve? numbering)
    externals := externals.reverse }

def ofNumbered (start : String) (numbered : NumberedGrammar) (version : Nat) : Language :=
  let id? (name : String) : Option Nat := numbered.numbering.ids[name]?
  { name := grammar.name
    symbols := numbered.numbering.symbols
    fields := walk.fieldNames.toArray
    tokens := numbered.numbering.tokens
    externals := numbered.externals
    extras := numbered.extras
    supertypes := ascending (walk.supertypes.filterMap id?)
    startSymbol := (id? start).getD 0
    wordToken := grammar.word.bind id?
    version }

/-- Loads a grammar, walking it in this order. -/
def load (options : LoadOptions) : Except LoadError Language :=
  match walk.defect? options.strict with
  | some defect => .error (.defect defect)
  | none =>
      let start := walk.startRule?.getD ""
      match walk.number symbolRoom start with
      | .error failure => .error failure.error
      | .ok numbered => .ok (walk.ofNumbered start numbered options.version)

end Walk

/-- What kind of error it is, whatever it names. -/
inductive LoadError.Variant where
  | defect (variant : Defect.Variant)
  | invalidPattern
  | nonTokenSymbol
  | tooManySymbols
  deriving DecidableEq

def LoadError.variant : LoadError → LoadError.Variant
  | defect found => .defect found.variant
  | invalidPattern _ _ => .invalidPattern
  | nonTokenSymbol _ _ => .nonTokenSymbol
  | tooManySymbols => .tooManySymbols

/-- The same language, or errors of the same kind. -/
inductive SameOutcome : Except LoadError Language → Except LoadError Language → Prop where
  | ok (language : Language) : SameOutcome (.ok language) (.ok language)
  | error {error other : LoadError} (same : error.variant = other.variant) :
      SameOutcome (.error error) (.error other)

namespace SameOutcome
variable {first second third : Except LoadError Language}

theorem refl : ∀ outcome, SameOutcome outcome outcome
  | .ok language => .ok language
  | .error _ => .error rfl

theorem symm : SameOutcome first second → SameOutcome second first
  | .ok language => .ok language
  | .error same => .error same.symm

theorem trans : SameOutcome first second → SameOutcome second third → SameOutcome first third
  | .ok language, .ok _ => .ok language
  | .error same, .error more => .error (same.trans more)

end SameOutcome

/-! ## What does not depend on the order -/

theorem sorted_eq {names canonical : List String} (perm : names.Perm canonical)
    (ordered : canonical.Pairwise (fun a b => compare a b = .lt)) : sorted names = canonical := by
  have total (a b : String) : ((compare a b).isLE || (compare b a).isLE) = true := by
    rw [Std.OrientedOrd.eq_swap (a := b)]
    cases compare a b <;> rfl
  have trans (a b c : String) : (compare a b).isLE = true → (compare b c).isLE = true →
      (compare a c).isLE = true := Std.TransOrd.isLE_trans
  have below : (sorted names).Pairwise (fun a b => (compare a b).isLE = true) :=
    List.pairwise_mergeSort trans total names
  have same : canonical.Pairwise (fun a b => (compare a b).isLE = true) :=
    ordered.imp fun less => by rw [less]; rfl
  exact List.Perm.eq_of_pairwise
    (fun _ _ _ _ less more => Std.LawfulEqOrd.eq_of_compare (Std.OrientedCmp.isLE_antisymm less more))
    below same ((List.mergeSort_perm names _).trans perm)

/-- Items in order are told by which items there are. -/
theorem ascending_congr {α : Type} [Ord α] [Std.TransOrd α] [Std.LawfulEqOrd α] [BEq α] [LawfulBEq α]
    {items others : List α} (same : ∀ item, item ∈ items ↔ item ∈ others) :
    ascending items = ascending others := by
  have nodup (items : List α) : (ascending items).Nodup :=
    (ascending_pairwise items).imp fun less same => by
      rw [same, Std.ReflOrd.compare_self] at less
      cases less
  refine List.Perm.eq_of_pairwise ?_ (ascending_pairwise items) (ascending_pairwise others) ?_
  · intro a b _ _ less more
    rw [Std.OrientedOrd.eq_swap, more] at less
    cases less
  · rw [List.perm_ext_iff_of_nodup (nodup items) (nodup others)]
    intro item
    rw [mem_ascending, mem_ascending, same]

theorem values_eq {α : Type} (map : NameMap α) : map.values = map.toList.map (·.2) := by
  have fold : map.values = map.foldr (fun _ content found => content :: found) [] := rfl
  rw [fold, Std.ExtTreeMap.foldr_eq_foldr_toList]
  induction map.toList with
  | nil => rfl
  | cons entry rest ih => rw [List.foldr_cons, ih, List.map_cons]

/-- Searches that find nothing but defects of one variant, and find one or none alike. -/
theorem findSome_variant {α : Type} {items others : List α} {find find' : α → Option Defect}
    {variant : Defect.Variant} (perm : items.Perm others)
    (same : ∀ item, (find item).isSome = (find' item).isSome)
    (found : ∀ item defect, find item = some defect → defect.variant = variant)
    (found' : ∀ item defect, find' item = some defect → defect.variant = variant) :
    (items.findSome? find).map Defect.variant = (others.findSome? find').map Defect.variant := by
  -- Which item is found first depends on the order, whether there is one does not.
  have alike : (items.findSome? find).isSome = (others.findSome? find').isSome := by
    rw [List.isSome_findSome?, List.isSome_findSome?, perm.any_eq]
    simp only [same]
  have kind {items : List α} {find : α → Option Defect}
      (found : ∀ item defect, find item = some defect → defect.variant = variant) :
      (items.findSome? find).map Defect.variant =
        if (items.findSome? find).isSome then some variant else none := by
    cases first : items.findSome? find with
    | none => rfl
    | some defect =>
        obtain ⟨item, _, here⟩ := List.exists_of_findSome?_eq_some first
        rw [Option.map_some, found item defect here]
        rfl
  rw [kind found, kind found', alike]

theorem Language.load_rejected {options : LoadOptions} {grammar : Grammar} {defect : Defect}
    (rejected : grammar.defect? options.strict = some defect) :
    (load options grammar).1 = .error (.defect defect) := by
  rw [load, loadWithin, Grammar.check, rejected]

namespace Walk
variable {grammar : Grammar} (walk : Walk grammar)

theorem names_perm : walk.names.Perm grammar.rules.keys := by
  rw [names, ← Std.ExtTreeMap.map_fst_toList_eq_keys]
  exact walk.complete.map _

theorem names_contains (name : String) : walk.names.contains name = grammar.rules.contains name := by
  rw [Bool.eq_iff_iff, List.contains_iff_mem, walk.names_perm.mem_iff, Std.ExtTreeMap.mem_keys,
    Std.ExtTreeMap.contains_iff_mem]

/-! ## Checks -/

theorem malformed_variant :
    walk.malformed?.map Defect.variant = grammar.malformed?.map Defect.variant := by
  rw [malformed?, Grammar.malformed?]
  have found (entry : String × Rule) (defect : Defect)
      (found : (entry.2.walk.findSome? fun node =>
        node.lack?.map (Defect.malformed entry.1 node.kind)) = some defect) :
      defect.variant = .malformed := by
    obtain ⟨node, _, here⟩ := List.exists_of_findSome?_eq_some found
    obtain ⟨lack, _, rfl⟩ := Option.map_eq_some_iff.mp here
    rfl
  exact findSome_variant ((walk.complete.append_right _).append_right _) (fun _ => rfl) found found

theorem undefinedSymbol_variant :
    walk.undefinedSymbol?.map Defect.variant = grammar.undefinedSymbol?.map Defect.variant := by
  rw [undefinedSymbol?, Grammar.undefinedSymbol?]
  simp only [names_contains]
  have found (entry : String × Rule) (defect : Defect)
      (found : (entry.2.symbolNames.findSome? fun symbol =>
        if grammar.rules.contains symbol || grammar.externalNames.contains symbol then none
        else some (Defect.undefinedSymbol symbol entry.1)) = some defect) :
      defect.variant = .undefinedSymbol := by
    obtain ⟨symbol, _, here⟩ := List.exists_of_findSome?_eq_some found
    split at here
    · cases here
    · rw [← Option.some.inj here]
      rfl
  exact findSome_variant (walk.complete.append_right _) (fun _ => rfl) found found

theorem referencedNames_eq : walk.referencedNames = grammar.referencedNames := by
  have rules : (walk.rules.map (·.2)).Perm grammar.rules.values := by
    rw [values_eq]
    exact walk.complete.map _
  apply ascending_congr
  simp only [List.mem_append, List.mem_flatMap, rules.mem_iff, implies_true]

theorem keys_ordered (keep : String → Bool) :
    (grammar.rules.keys.filter keep).Pairwise (fun a b => compare a b = .lt) :=
  Std.ExtTreeMap.ordered_keys.filter _

theorem rootCandidates_eq : walk.rootCandidates = grammar.rootCandidates := by
  rw [rootCandidates, Grammar.rootCandidates, referencedNames_eq]
  exact sorted_eq (walk.names_perm.filter _) (keys_ordered _)

theorem startDefect_eq : walk.startDefect? = grammar.startDefect? := by
  rw [startDefect?, rootCandidates_eq]
  rfl

theorem startRule_eq : walk.startRule? = grammar.startRule? := by
  rw [startRule?, rootCandidates_eq]
  rfl

theorem unreachableRule_eq : walk.unreachableRule? = grammar.unreachableRule? := by
  have rules (start : String) : walk.unreachableRules start = grammar.unreachableRules start := by
    rw [unreachableRules, Grammar.unreachableRules,
      sorted_eq (walk.names_perm.filter _) (keys_ordered _), List.filter_filter]
    exact List.filter_congr fun name _ => Bool.and_comm _ _
  rw [unreachableRule?, Grammar.unreachableRule?, Grammar.unreachable, startRule_eq]
  simp only [funext rules]

/-- What is first found has the same variant, since each search finds defects of one variant. -/
theorem defect_variant (strict : Bool) :
    (walk.defect? strict).map Defect.variant = (grammar.defect? strict).map Defect.variant := by
  have or_variant {first first' second second' : Option Defect}
      (same : first.map Defect.variant = first'.map Defect.variant)
      (behind : second.map Defect.variant = second'.map Defect.variant) :
      (first.or second).map Defect.variant = (first'.or second').map Defect.variant := by
    rw [Option.map_or, Option.map_or, same, behind]
  rw [defect?, Grammar.defect?]
  split
  · rfl
  · simp only [Option.orElse_eq_orElse, Option.orElse_eq_or, startDefect_eq, unreachableRule_eq]
    exact or_variant walk.malformed_variant (or_variant walk.undefinedSymbol_variant rfl)

/-! ## Tables -/

theorem fieldNames_eq : walk.fieldNames = grammar.fieldNames := by
  apply ascending_congr
  rw [values_eq, List.flatMap_map]
  simp only [List.mem_flatMap, walk.complete.mem_iff, implies_true]

/-- Looking up keys that are picked comes down to picking entries. -/
theorem lookup_keys (map : NameMap Rule) (keep : String → Bool) :
    (map.keys.filter keep).filterMap (fun name => map[name]?.map (name, ·)) =
      map.toList.filter (keep ·.1) := by
  rw [← Std.ExtTreeMap.map_fst_toList_eq_keys, List.filter_map, List.filterMap_map]
  have found : ∀ entry ∈ map.toList.filter (keep ·.1),
      (map[entry.1]?.map (entry.1, ·)) = some entry := fun entry held => by
    rw [Std.ExtTreeMap.mem_toList_iff_getElem?_eq_some.mp (List.mem_filter.mp held).1, Option.map_some]
  exact (List.filterMap_congr found).trans List.filterMap_some

/-- The rules are sorted and looked up, which is what walking a map in order comes down to. -/
theorem numberedRules_eq {start : String} (rule : start ∈ grammar.rules) :
    walk.numberedRules start = grammar.numberedRules start := by
  -- The start rule is put in front of the others in one way, and picked out of them in the other.
  have first : grammar.rules.keys.filter (· == start) = [start] := by
    rw [List.filter_beq, (nodup_of_ascending Std.ExtTreeMap.ordered_keys).count,
      if_pos (Std.ExtTreeMap.mem_keys.mpr rule)]
    rfl
  rw [numberedRules, sorted_eq (walk.names_perm.filter _) (keys_ordered _), Grammar.numberedRules,
    List.partition_eq_filter_filter, ← List.singleton_append, ← first, List.filterMap_append,
    lookup_keys, lookup_keys]
  rfl

theorem number_eq {room : Nat} {start : String} (rule : start ∈ grammar.rules) :
    walk.number room start = grammar.number room start := by
  have supertypes : walk.supertypes.contains = grammar.supertypeNames.contains := by
    funext name
    rw [Bool.eq_iff_iff, List.contains_iff_mem, List.contains_iff_mem, walk.same]
  rw [number, Grammar.number, walk.numberedRules_eq rule, supertypes]
  rfl

theorem ofNumbered_eq (start : String) (numbered : NumberedGrammar) (version : Nat) :
    walk.ofNumbered start numbered version = Language.ofNumbered grammar start numbered version := by
  have supertypes (id? : String → Option Nat) : ascending (walk.supertypes.filterMap id?) =
      ascending (grammar.supertypeNames.filterMap id?) :=
    ascending_congr fun id => by simp only [List.mem_filterMap, walk.same]
  rw [ofNumbered, Language.ofNumbered, fieldNames_eq, supertypes]

theorem startRule_mem {start : String} (root : grammar.startRule? = some start) :
    start ∈ grammar.rules := by
  rw [Grammar.startRule?] at root
  split at root
  · rename_i only single
    rw [← Option.some.inj root]
    exact (Grammar.mem_rootCandidates.mp (single ▸ List.mem_singleton_self only)).1
  · cases root

/-- A grammar without defects is numbered alike in every order, whether there is room for it or not. -/
theorem load_accepted {options : LoadOptions} (accepted : grammar.defect? options.strict = none) :
    walk.load options = (Language.load options grammar).1 := by
  have verdict := walk.defect_variant options.strict
  rw [accepted, Option.map_none, Option.map_eq_none_iff] at verdict
  obtain ⟨start, root⟩ := Grammar.startRule?_isSome accepted
  rw [load, Language.load, Language.loadWithin, Grammar.check, verdict, accepted, startRule_eq, root]
  simp only [Option.getD_some, walk.number_eq (startRule_mem root), ofNumbered_eq]
  cases grammar.number symbolRoom start <;> rfl

theorem load_rejected {options : LoadOptions} {defect : Defect}
    (rejected : walk.defect? options.strict = some defect) :
    walk.load options = .error (.defect defect) := by
  rw [load, rejected]

/-- Whatever the order, a walk loads the same language as in name order, or fails with an error of the
same kind. -/
theorem load_same (options : LoadOptions) :
    SameOutcome (walk.load options) (Language.load options grammar).1 := by
  have verdict := walk.defect_variant options.strict
  cases found : grammar.defect? options.strict with
  | some defect =>
      rw [found] at verdict
      -- The walk may come across another defect, but of this kind.
      obtain ⟨other, here, same⟩ := Option.map_eq_some_iff.mp verdict
      rw [walk.load_rejected here, Language.load_rejected found]
      exact .error (congrArg LoadError.Variant.defect same)
  | none =>
      rw [walk.load_accepted found]
      exact .refl _

end Walk

namespace Grammar

/-- Loading is the walk in name order. -/
theorem nameOrder_load (grammar : Grammar) (options : LoadOptions) :
    grammar.nameOrder.load options = (Language.load options grammar).1 := by
  have symbols : grammar.nameOrder.undefinedSymbol? = grammar.undefinedSymbol? := by
    rw [Walk.undefinedSymbol?, undefinedSymbol?]
    simp only [Walk.names_contains]
    rfl
  have same : grammar.nameOrder.defect? options.strict = grammar.defect? options.strict := by
    rw [Walk.defect?, defect?, symbols, Walk.startDefect_eq, Walk.unreachableRule_eq]
    rfl
  cases found : grammar.defect? options.strict with
  | some defect => rw [Walk.load_rejected _ (same.trans found), Language.load_rejected found]
  | none => exact Walk.load_accepted _ found

/-- Rules may be walked in any order they were listed in. -/
def walkAs {pairs listed : List (String × Rule)} (base : Grammar)
    (distinct : (pairs.map (·.1)).Nodup) (perm : pairs.Perm listed) :
    Walk (base.withRules pairs) where
  rules := listed
  complete := perm.symm.trans (toList_ofList distinct)
  supertypes := base.supertypeNames
  same _ := Iff.rfl

end Grammar

namespace Language

/-- Of the same rules in two orders the same grammar is built, by steps or from texts. It may be walked
in either order and in any other; all these walks load the same language, in all its tables, or all
fail with errors of the same kind, as loading does. -/
theorem load_rule_order {base : Grammar} {pairs listed : List (String × Rule)}
    (distinct : (pairs.map (·.1)).Nodup) (perm : pairs.Perm listed)
    (first : Grammar.Source base pairs) (second : Grammar.Source base listed) :
    ∃ grammar, first.grammar? = some grammar ∧ second.grammar? = some grammar
      ∧ (∃ walk : Walk grammar, walk.rules = pairs) ∧ (∃ walk : Walk grammar, walk.rules = listed)
      ∧ ∀ (options : LoadOptions) (walk other : Walk grammar),
          SameOutcome (walk.load options) (other.load options)
            ∧ SameOutcome (walk.load options) (load options grammar).1 := by
  have distinct' : (listed.map (·.1)).Nodup := (perm.map (·.1)).nodup distinct
  refine ⟨base.withRules pairs, first.grammar_eq distinct, ?second,
    ⟨base.walkAs distinct (.refl pairs), rfl⟩, ⟨base.walkAs distinct perm, rfl⟩, ?loaded⟩
  case second => rw [second.grammar_eq distinct', base.withRules_perm distinct perm]
  case loaded =>
    intro options walk other
    exact ⟨(walk.load_same options).trans (other.load_same options).symm, walk.load_same options⟩

/-- The rules of `sumGrammar` from the start rule on. -/
def sumRules : List (String × Rule) :=
  [("sum", Rule.seq [.symbol "digit", .string "+", .aliased (.symbol "summand") "rest" true]),
    ("summand", Rule.choice [.symbol "digit", .seq [.symbol "indent", .symbol "digit"]]),
    ("digit", Rule.token (.choice [.string "0", .string "1"]))]

/-- The sums of two digits, put together step by step and read from a text that lists their rules the
other way round. -/
theorem load_rule_order_sum :
    ∃ grammar,
      (Grammar.assemble "sum" [.extras [.string " "], .word "digit", .rules sumRules,
          .externals [.symbol "indent"], .supertypes ["summand"]]).toOption = some grammar
        ∧ Grammar.read? (sumGrammar.listedText sumRules.reverse) = some grammar
        ∧ ∀ (options : LoadOptions) (walk other : Walk grammar),
            SameOutcome (walk.load options) (other.load options) := by
  obtain ⟨listing, text⟩ := sumGrammar.exists_listing sumRules.reverse
  have distinct : (sumRules.map (·.1)).Nodup := by decide
  let steps : Grammar.Source sumGrammar sumRules :=
    .steps [.extras [.string " "], .word "digit", .rules sumRules, .externals [.symbol "indent"],
      .supertypes ["summand"]] rfl rfl
  obtain ⟨grammar, built, read, -, -, loads⟩ :=
    load_rule_order distinct (List.reverse_perm sumRules).symm steps (.text listing)
  rw [← text]
  exact ⟨grammar, built, read, fun options walk other => (loads options walk other).1⟩

end Language

end Treegram
