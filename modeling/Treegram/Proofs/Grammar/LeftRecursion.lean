import Mathlib.Computability.Language
import Treegram.Proofs.Grammar.Verdict

/-!
Rules that begin with a reference. Each kind of rule says which rows of items it can be expanded to,
given those of its parts, and a rule can begin with what stands first in one of them. The check looks at
the first part of a rule alone: it never finds what is not there, and it finds all there is unless the
reference stands behind something that can be empty, or inside what the check does not look into.
-/

namespace Treegram

open scoped Computability

namespace Rule

/-- The wrappers that change nothing about what stands first, and that the check looks into. -/
def Kind.passesOn : Kind → Bool
  | prec | precLeft | precRight | precDynamic | field | aliased => true
  | _ => false

/-- The wrappers whose content may stand first, and that the check does not look into. -/
def Kind.hides : Kind → Bool
  | many | many1 | reserved => true
  | _ => false

/-! ## Expansions -/

/-- The rows of items that a node is expanded to, from those of its content and of its members and from
what a sequence makes of its members'. An item is a node that is not expanded itself. -/
def expansionsOf (sequence : List (Language Rule) → Language Rule) (rule : Rule)
    (content : Option (Language Rule)) (members : List (Language Rule)) : Language Rule :=
  let inner := content.getD 0
  match rule.kind with
  | .blank => 1
  | .string | .pattern | .symbol | .token | .immediateToken => {[rule]}
  | .seq => sequence members
  | .choice => members.sum
  | .many => inner∗
  | .many1 => inner * inner∗
  | .prec | .precLeft | .precRight | .precDynamic | .field | .aliased | .reserved => inner

def expansions : Rule → Language Rule := fold (expansionsOf List.prod)

/-- The expansions when every sequence goes no further than its first member. -/
def openings : Rule → Language Rule := fold (expansionsOf fun members => members.head?.getD 1)

theorem expansions_eq (rule : Rule) : rule.expansions =
    rule.expansionsOf List.prod (rule.content.map expansions) (rule.members.map expansions) :=
  fold_eq _ rule

theorem openings_eq (rule : Rule) : rule.openings =
    rule.expansionsOf (fun members => members.head?.getD 1) (rule.content.map openings)
      (rule.members.map openings) :=
  fold_eq _ rule

/-- One of the rows has a reference to `target` as its first item. -/
def BeginsWith (target : String) (rows : Language Rule) : Prop :=
  ∃ first rest, first :: rest ∈ rows ∧ first.symbolName? = some target

section BeginsWith
variable {target : String} {rows others : Language Rule}

theorem not_beginsWith_zero : ¬ BeginsWith target 0 := by
  rintro ⟨first, rest, inside, _⟩
  exact Language.notMem_zero _ inside

theorem not_beginsWith_one : ¬ BeginsWith target 1 := by
  rintro ⟨first, rest, inside, _⟩
  exact List.cons_ne_nil first rest ((Language.mem_one _).mp inside)

theorem BeginsWith.mono (begins : BeginsWith target rows) (among : ∀ row ∈ rows, row ∈ others) :
    BeginsWith target others := by
  obtain ⟨first, rest, inside, named⟩ := begins
  exact ⟨first, rest, among _ inside, named⟩

/-- What begins with a reference comes of something that is there. -/
theorem BeginsWith.of_content {content : Option Rule} {each : Rule → Language Rule}
    (begins : BeginsWith target ((content.map each).getD 0)) :
    ∃ inner, content = some inner ∧ BeginsWith target (each inner) := by
  cases content with
  | none => exact absurd begins not_beginsWith_zero
  | some inner => exact ⟨inner, rfl, begins⟩

theorem BeginsWith.of_first {members : List Rule} {each : Rule → Language Rule}
    (begins : BeginsWith target ((members.map each).head?.getD 1)) :
    ∃ first others, members = first :: others ∧ BeginsWith target (each first) := by
  cases members with
  | nil => exact absurd begins not_beginsWith_one
  | cons first others => exact ⟨first, others, rfl, begins⟩

theorem beginsWith_sum {parts : List (Language Rule)} :
    BeginsWith target parts.sum ↔ ∃ part ∈ parts, BeginsWith target part := by
  induction parts with
  | nil => simpa using not_beginsWith_zero
  | cons part parts ih =>
      rw [List.sum_cons, List.exists_mem_cons_iff, ← ih]
      constructor
      · rintro ⟨first, rest, inside | inside, named⟩
        · exact .inl ⟨first, rest, inside, named⟩
        · exact .inr ⟨first, rest, inside, named⟩
      · rintro (begins | begins)
        · exact begins.mono fun _ => .inl
        · exact begins.mono fun _ => .inr

/-- What stands first stays first, if there is anything at all to stand behind it. -/
theorem BeginsWith.mul (begins : BeginsWith target rows) (behind : ∃ row, row ∈ others) :
    BeginsWith target (rows * others) := by
  obtain ⟨first, rest, inside, named⟩ := begins
  obtain ⟨row, held⟩ := behind
  exact ⟨first, rest ++ row, Language.append_mem_mul inside held, named⟩

/-- What is never empty leaves nothing to what stands behind it. -/
theorem BeginsWith.of_mul (begins : BeginsWith target (rows * others)) (solid : [] ∉ rows) :
    BeginsWith target rows := by
  obtain ⟨first, rest, inside, named⟩ := begins
  obtain ⟨row, held, behind, _, joined⟩ := Language.mem_mul.mp inside
  cases row with
  | nil => exact absurd held solid
  | cons item row =>
      obtain ⟨rfl, _⟩ := List.cons.inj joined
      exact ⟨item, row, held, named⟩

theorem beginsWith_kstar : BeginsWith target rows∗ ↔ BeginsWith target rows := by
  constructor
  · rintro ⟨first, rest, inside, named⟩
    obtain ⟨parts, joined, good⟩ := Language.mem_kstar_iff_exists_nonempty.mp inside
    cases parts with
    | nil => cases joined
    | cons part parts =>
        obtain ⟨held, solid⟩ := good part List.mem_cons_self
        cases part with
        | nil => exact absurd rfl solid
        | cons item part =>
            obtain ⟨rfl, _⟩ := List.cons.inj joined
            exact ⟨first, part, held, named⟩
  · exact fun begins => begins.mono fun _ inside => (le_kstar : rows ≤ rows∗) inside

theorem beginsWith_many1 : BeginsWith target (rows * rows∗) ↔ BeginsWith target rows :=
  have among : rows * rows∗ ≤ rows∗ := mul_kstar_le_kstar
  ⟨fun begins => beginsWith_kstar.mp (begins.mono fun _ inside => among inside),
    fun begins => begins.mul ⟨[], Language.nil_mem_kstar rows⟩⟩

/-- What begins with a reference is carried from the parts of a node to the node. What is to be known of
sequences is left open. -/
theorem beginsWith_expansionsOf {rule : Rule} {sequence other : List (Language Rule) → Language Rule}
    {before after : Rule → Language Rule}
    (content : (rule.kind.passesOn || rule.kind.hides) = true → ∀ inner, rule.content = some inner →
      BeginsWith target (before inner) → BeginsWith target (after inner))
    (member : rule.kind = .choice → ∀ inner ∈ rule.members,
      BeginsWith target (before inner) → BeginsWith target (after inner))
    (joined : rule.kind = .seq → BeginsWith target (sequence (rule.members.map before)) →
      BeginsWith target (other (rule.members.map after)))
    (begins : BeginsWith target
      (rule.expansionsOf sequence (rule.content.map before) (rule.members.map before))) :
    BeginsWith target
      (rule.expansionsOf other (rule.content.map after) (rule.members.map after)) := by
  have inside (wraps : (rule.kind.passesOn || rule.kind.hides) = true)
      (begins : BeginsWith target ((rule.content.map before).getD 0)) :
      BeginsWith target ((rule.content.map after).getD 0) := by
    obtain ⟨inner, held, begins⟩ := begins.of_content
    rw [held]
    exact content wraps inner held begins
  rw [expansionsOf] at begins ⊢
  -- Repeating a part changes nothing about what stands first in it.
  cases kind : rule.kind with
  | blank | string | pattern | symbol | token | immediateToken => simpa only [kind] using begins
  | seq => exact joined kind (by simpa only [kind] using begins)
  | choice =>
      simp only [kind] at begins
      obtain ⟨_, held, begins⟩ := beginsWith_sum.mp begins
      obtain ⟨inner, found, rfl⟩ := List.mem_map.mp held
      exact beginsWith_sum.mpr ⟨_, List.mem_map_of_mem found, member kind inner found begins⟩
  | many =>
      simp only [kind] at begins
      exact beginsWith_kstar.mpr (inside (by rw [kind]; rfl) (beginsWith_kstar.mp begins))
  | many1 =>
      simp only [kind] at begins
      exact beginsWith_many1.mpr (inside (by rw [kind]; rfl) (beginsWith_many1.mp begins))
  | prec | precLeft | precRight | precDynamic | field | aliased | reserved =>
      simp only [kind] at begins
      exact inside (by rw [kind]; rfl) begins

end BeginsWith

/-- A rule in which no node lacks a part that its kind needs. -/
def IsWhole (rule : Rule) : Prop := ∀ node, rule.Contains node → node.IsComplete

theorem whole_of_walk {rule : Rule} (complete : ∀ node ∈ rule.walk, node.lack? = none) : rule.IsWhole :=
  fun node inside => lack_eq_none_iff.mp (complete node (mem_walk_iff.mpr inside))

theorem IsWhole.child {rule child : Rule} (whole : rule.IsWhole) (found : child ∈ rule.children) :
    child.IsWhole :=
  fun node inside => whole node (.child found inside)

theorem mem_prod_of_each {parts : List (Language Rule)} (each : ∀ part ∈ parts, ∃ row, row ∈ part) :
    ∃ row, row ∈ parts.prod := by
  induction parts with
  | nil => exact ⟨[], rfl⟩
  | cons part parts ih =>
      obtain ⟨⟨row, held⟩, others⟩ := List.forall_mem_cons.mp each
      obtain ⟨rest, behind⟩ := ih others
      rw [List.prod_cons]
      exact ⟨row ++ rest, Language.append_mem_mul held behind⟩

/-- Every rule that lacks nothing can be expanded. -/
theorem IsWhole.expands {rule : Rule} (whole : rule.IsWhole) : ∃ row, row ∈ rule.expansions := by
  induction rule using childInduction with
  | step rule ih =>
      have complete := whole rule (.self rule)
      have members : ∀ part ∈ rule.members.map expansions, ∃ row, row ∈ part := by
        simp only [List.mem_map, forall_exists_index, and_imp, forall_apply_eq_imp_iff₂]
        intro member held
        have child : member ∈ rule.children := List.mem_append_right _ held
        exact ih member child (whole.child child)
      have content (unary : rule.kind.isUnary = true) :
          ∃ row, row ∈ (rule.content.map expansions).getD 0 := by
        cases held : rule.content with
        | none => exact absurd ⟨unary, held⟩ (complete .content)
        | some inner =>
            have child : inner ∈ rule.children :=
              List.mem_append_left _ (Option.mem_toList.mpr held)
            exact ih inner child (whole.child child)
      rw [expansions_eq, expansionsOf]
      cases kind : rule.kind with
      | blank => exact ⟨[], rfl⟩
      | string | pattern | symbol | token | immediateToken => exact ⟨[rule], rfl⟩
      | seq => exact mem_prod_of_each members
      | choice =>
          have some : rule.members ≠ [] := fun none => complete .members ⟨.inr kind, none⟩
          obtain ⟨member, others, shape⟩ := List.exists_cons_of_ne_nil some
          rw [shape, List.map_cons] at members ⊢
          obtain ⟨row, held⟩ := members _ List.mem_cons_self
          exact ⟨row, .inl held⟩
      | many => exact ⟨[], Language.nil_mem_kstar _⟩
      | many1 =>
          obtain ⟨row, held⟩ := content (by rw [kind]; rfl)
          exact ⟨row ++ [], Language.append_mem_mul held (Language.nil_mem_kstar _)⟩
      | prec | precLeft | precRight | precDynamic | field | aliased | reserved =>
          exact content (by rw [kind]; rfl)

/-! ## The check -/

theorem leadsWith_eq (target : String) (rule : Rule) : rule.leadsWith target =
    match rule.kind with
    | .symbol => rule.symbolName? == some target
    | .seq => (rule.members.map (leadsWith target)).head?.getD false
    | .choice => (rule.members.map (leadsWith target)).any id
    | .prec | .precLeft | .precRight | .precDynamic | .field | .aliased =>
        (rule.content.map (leadsWith target)).getD false
    | _ => false :=
  fold_eq _ rule

/-- What the check finds stands first even if sequences go no further than their first members. -/
theorem openings_of_leadsWith {target : String} {rule : Rule} (leads : rule.leadsWith target = true) :
    BeginsWith target rule.openings := by
  induction rule using childInduction with
  | step rule ih =>
      have content (found : (rule.content.map (leadsWith target)).getD false = true) :
          BeginsWith target ((rule.content.map openings).getD 0) := by
        cases held : rule.content with
        | none => simp [held] at found
        | some inner => exact ih inner (by simp [children, held]) (by simpa [held] using found)
      rw [leadsWith_eq] at leads
      rw [openings_eq, expansionsOf]
      cases kind : rule.kind with
      | symbol => exact ⟨rule, [], rfl, by simpa [kind] using leads⟩
      | seq =>
          cases shape : rule.members with
          | nil => simp [kind, shape] at leads
          | cons first others =>
              exact ih first (by simp [children, shape]) (by simpa [kind, shape] using leads)
      | choice =>
          obtain ⟨member, held, found⟩ : ∃ member ∈ rule.members, member.leadsWith target = true := by
            simpa [kind] using leads
          exact beginsWith_sum.mpr
            ⟨_, List.mem_map_of_mem held, ih member (by simp [children, held]) found⟩
      | prec | precLeft | precRight | precDynamic | field | aliased =>
          exact content (by simpa [kind] using leads)
      | blank | string | pattern | many | many1 | token | immediateToken | reserved =>
          simp [kind] at leads

/-- What stands first when sequences go no further than their first members stands first all the same
when they are expanded in full. -/
theorem expansions_of_openings {target : String} {rule : Rule} (whole : rule.IsWhole)
    (begins : BeginsWith target rule.openings) : BeginsWith target rule.expansions := by
  induction rule using childInduction with
  | step rule ih =>
      have child (inner : Rule) (found : inner ∈ rule.children)
          (begins : BeginsWith target inner.openings) : BeginsWith target inner.expansions :=
        ih inner found (whole.child found) begins
      rw [openings_eq] at begins
      rw [expansions_eq]
      refine beginsWith_expansionsOf ?_ ?_ ?_ begins
      · exact fun _ inner held => child inner (List.mem_append_left _ (Option.mem_toList.mpr held))
      · exact fun _ inner held => child inner (List.mem_append_right _ held)
      · intro _ begins
        obtain ⟨first, others, shape, begins⟩ := begins.of_first
        have found (member : Rule) (held : member ∈ first :: others) : member ∈ rule.children :=
          List.mem_append_right _ (shape ▸ held)
        rw [shape]
        -- The other members have expansions too, or else the sequence would have none.
        refine (child first (found first List.mem_cons_self) begins).mul (mem_prod_of_each ?_)
        simp only [List.mem_map, forall_exists_index, and_imp, forall_apply_eq_imp_iff₂]
        exact fun member held => (whole.child (found member (List.mem_cons_of_mem _ held))).expands

/-! ## The front of a rule -/

/-- A node at the front of a rule: one that nothing stands before and that nothing hides. -/
inductive Fronts : Rule → Rule → Prop where
  | self (rule : Rule) : Fronts rule rule
  | first {rule inner node : Rule} (kind : rule.kind = .seq) (held : rule.members.head? = some inner)
      (inside : Fronts inner node) : Fronts rule node
  | member {rule inner node : Rule} (kind : rule.kind = .choice) (held : inner ∈ rule.members)
      (inside : Fronts inner node) : Fronts rule node
  | content {rule inner node : Rule} (kind : rule.kind.passesOn = true)
      (held : rule.content = some inner) (inside : Fronts inner node) : Fronts rule node

theorem Fronts.contains {rule node : Rule} (fronts : rule.Fronts node) : rule.Contains node := by
  induction fronts with
  | self rule => exact .self rule
  | first _ held _ ih => exact .member (List.mem_of_mem_head? held) ih
  | member _ held _ ih => exact .member held ih
  | content _ held _ ih => exact .content held ih

/-- Nothing that the check does not look into could begin with the reference. -/
def HidesNo (target : String) (rule : Rule) : Prop :=
  ∀ node, rule.Fronts node → node.kind.hides = true → ¬ BeginsWith target node.expansions

/-- No sequence at the front has a first member that can be empty. -/
def HasSolidFront (rule : Rule) : Prop :=
  ∀ node, rule.Fronts node → node.kind = .seq → ∀ first ∈ node.members.head?, [] ∉ first.expansions

/-- The check finds every reference that stands first when sequences go no further than their first
members. -/
theorem leadsWith_of_openings {target : String} {rule : Rule} (whole : rule.IsWhole)
    (shows : HidesNo target rule) (begins : BeginsWith target rule.openings) :
    rule.leadsWith target = true := by
  induction rule using childInduction with
  | step rule ih =>
      have child {inner : Rule} (found : inner ∈ rule.children)
          (fronts : ∀ node, inner.Fronts node → rule.Fronts node)
          (begins : BeginsWith target inner.openings) : inner.leadsWith target = true :=
        ih inner found (whole.child found) (fun node inside => shows node (fronts node inside)) begins
      have content (passes : rule.kind.passesOn = true)
          (begins : BeginsWith target ((rule.content.map openings).getD 0)) :
          (rule.content.map (leadsWith target)).getD false = true := by
        obtain ⟨inner, held, begins⟩ := begins.of_content
        rw [held]
        exact child (by simp [children, held]) (fun _ => .content passes held) begins
      have full := expansions_of_openings whole begins
      rw [openings_eq, expansionsOf] at begins
      rw [leadsWith_eq]
      cases kind : rule.kind with
      | symbol =>
          simp only [kind] at begins
          obtain ⟨first, rest, same, named⟩ := begins
          obtain ⟨rfl, _⟩ := List.cons.inj same
          simp [named]
      | seq =>
          simp only [kind] at begins
          obtain ⟨first, others, shape, begins⟩ := begins.of_first
          rw [shape]
          exact child (by simp [children, shape]) (fun _ => .first kind (by rw [shape]; rfl)) begins
      | choice =>
          simp only [kind] at begins
          obtain ⟨_, part, begins⟩ := beginsWith_sum.mp begins
          obtain ⟨member, held, rfl⟩ := List.mem_map.mp part
          have found := child (List.mem_append_right _ held) (fun _ => .member kind held) begins
          simpa using ⟨member, held, found⟩
      | prec | precLeft | precRight | precDynamic | field | aliased =>
          simp only [kind] at begins
          exact content (by rw [kind]; rfl) begins
      -- The check does not look inside, so there must be no reference that stands first.
      | many | many1 | reserved => exact absurd full (shows rule (.self rule) (by rw [kind]; rfl))
      | blank =>
          simp only [kind] at begins
          exact absurd begins not_beginsWith_one
      | string | pattern | token | immediateToken =>
          simp only [kind] at begins
          obtain ⟨first, rest, same, named⟩ := begins
          obtain ⟨rfl, _⟩ := List.cons.inj same
          simp [symbolName?, isSymbol, kind] at named

/-- Where no first member can be empty, a sequence begins as its first member does. -/
theorem openings_of_expansions {target : String} {rule : Rule} (shows : HidesNo target rule)
    (solid : rule.HasSolidFront) (begins : BeginsWith target rule.expansions) :
    BeginsWith target rule.openings := by
  induction rule using childInduction with
  | step rule ih =>
      have child {inner : Rule} (found : inner ∈ rule.children)
          (fronts : ∀ node, inner.Fronts node → rule.Fronts node)
          (begins : BeginsWith target inner.expansions) : BeginsWith target inner.openings :=
        ih inner found (fun node inside => shows node (fronts node inside))
          (fun node inside => solid node (fronts node inside)) begins
      cases hidden : rule.kind.hides with
      | true => exact absurd begins (shows rule (.self rule) hidden)
      | false =>
          rw [expansions_eq] at begins
          rw [openings_eq]
          refine beginsWith_expansionsOf ?_ ?_ ?_ begins
          · intro wraps inner held
            have passes : rule.kind.passesOn = true := by simpa [hidden] using wraps
            exact child (by simp [children, held]) fun _ => .content passes held
          · exact fun kind inner held => child (List.mem_append_right _ held) fun _ => .member kind held
          · intro kind begins
            cases shape : rule.members with
            | nil =>
                rw [shape] at begins
                exact absurd begins not_beginsWith_one
            | cons first others =>
                rw [shape, List.map_cons, List.prod_cons] at begins
                have head : rule.members.head? = some first := by rw [shape]; rfl
                exact child (by simp [children, shape]) (fun _ => .first kind head)
                  (begins.of_mul (solid rule (.self rule) kind first head))

/-- The check finds every reference at the front. -/
theorem leadsWith_of_fronts {target : String} {rule node : Rule} (fronts : rule.Fronts node)
    (named : node.symbolName? = some target) : rule.leadsWith target = true := by
  induction fronts with
  | self rule =>
      rw [leadsWith_eq, (symbolName_eq_some.mp named).1]
      simp [named]
  | first kind held _ ih =>
      rw [leadsWith_eq]
      simp [kind, held, ih named]
  | member kind held _ ih =>
      rw [leadsWith_eq]
      simpa [kind] using ⟨_, held, ih named⟩
  | @content rule inner node kind held _ ih =>
      rw [leadsWith_eq, held]
      cases shape : rule.kind <;> first | exact ih named | simp [shape, Kind.passesOn] at kind

/-- How the check's answer for a rule is to be read. -/
structure AnswersFor (target : String) (rule : Rule) : Prop where
  /-- What is told is so, even if sequences go no further than their first members. -/
  sound : rule.leadsWith target = true →
    BeginsWith target rule.openings ∧ BeginsWith target rule.expansions
  found : ∀ node, rule.Fronts node → node.symbolName? = some target → rule.leadsWith target = true
  /-- It is all there is to tell of the first members of sequences, as far as the check looks. -/
  exact : HidesNo target rule → (rule.leadsWith target = true ↔ BeginsWith target rule.openings)
  /-- It is all there is if a first member is never empty. -/
  full : HidesNo target rule → rule.HasSolidFront →
    (rule.leadsWith target = true ↔ BeginsWith target rule.expansions)

theorem IsWhole.answersFor {rule : Rule} (whole : rule.IsWhole) (target : String) :
    AnswersFor target rule where
  sound leads :=
    have begins := openings_of_leadsWith leads
    ⟨begins, expansions_of_openings whole begins⟩
  found _ fronts named := leadsWith_of_fronts fronts named
  exact shows := ⟨openings_of_leadsWith, leadsWith_of_openings whole shows⟩
  full shows solid :=
    ⟨fun leads => expansions_of_openings whole (openings_of_leadsWith leads),
      fun begins => leadsWith_of_openings whole shows (openings_of_expansions shows solid begins)⟩

end Rule

namespace Grammar
variable {grammar : Grammar}

theorem mem_leftRecursiveRules {name : String} :
    name ∈ grammar.leftRecursiveRules ↔
      ∃ rule, grammar.rules[name]? = some rule ∧ rule.leadsWith name = true := by
  simp [leftRecursiveRules, Std.ExtTreeMap.mem_toList_iff_getElem?_eq_some]

theorem leftRecursiveRules_nodup (grammar : Grammar) : grammar.leftRecursiveRules.Nodup := by
  have names : (grammar.rules.toList.map (·.1)).Nodup := by
    rw [Std.ExtTreeMap.map_fst_toList_eq_keys]
    exact Std.ExtTreeMap.nodup_keys
  exact names.sublist (List.filter_sublist.map _)

/-- None of the other remarks tells of left recursion. -/
theorem count_leftRecursion (grammar : Grammar) (name : String) :
    grammar.remarks.count (.leftRecursiveRule name) = grammar.leftRecursiveRules.count name := by
  have reach : (grammar.unreachable.map Event.unreachableRule).count (.leftRecursiveRule name) = 0 :=
    List.count_eq_zero.mpr (by simp)
  have own : (grammar.leftRecursiveRules.map Event.leftRecursiveRule).count
      (.leftRecursiveRule name) = grammar.leftRecursiveRules.count name :=
    List.count_map_of_injective _ _ (fun _ _ => Event.leftRecursiveRule.inj) name
  rw [remarks, List.count_append, List.count_append, reach, own, Nat.zero_add, Nat.add_eq_left,
    List.count_eq_zero]
  simp

/-- A check tells of the rules that lead with their own names, of each once, and only if it finds no
defect. -/
theorem check_leftRecursion (strict : Bool) (grammar : Grammar) (name : String) :
    ((grammar.check strict).2.count (.leftRecursiveRule name) = 1 ↔
        (grammar.check strict).1 = .ok ()
          ∧ ∃ rule, grammar.rules[name]? = some rule ∧ rule.leadsWith name = true)
      ∧ (grammar.check strict).2.count (.leftRecursiveRule name) ≤ 1 := by
  rw [← mem_leftRecursiveRules, check]
  cases grammar.defect? strict with
  | some defect => simp
  | none =>
      have once := List.nodup_iff_count_le_one.mp grammar.leftRecursiveRules_nodup name
      have held := @List.count_pos_iff _ _ _ name grammar.leftRecursiveRules
      simp only [count_leftRecursion]
      refine ⟨⟨fun one => ⟨trivial, held.mp (by omega)⟩, fun found => ?_⟩, by omega⟩
      have some := held.mpr found.2
      omega

/-- For a rule that lacks nothing, the check is right where it finds something. It finds the references
that stand first when sequences go no further than their first members, unless they stand in a repetition
or behind a choice of reserved words, and so all that stand first where no first member can be empty. Of
the rules of a grammar without a defect, exactly those that lead with their own names are told. -/
theorem leftRecursion_told :
    (∀ (rule : Rule) (target : String), rule.IsWhole → rule.AnswersFor target)
      ∧ ∀ (strict : Bool) (grammar : Grammar) (name : String),
        ((grammar.check strict).2.count (.leftRecursiveRule name) = 1 ↔
            (grammar.check strict).1 = .ok ()
              ∧ ∃ rule, grammar.rules[name]? = some rule ∧ rule.leadsWith name = true)
          ∧ (grammar.check strict).2.count (.leftRecursiveRule name) ≤ 1 :=
  ⟨fun _ target whole => whole.answersFor target, check_leftRecursion⟩

/-- A sum, which begins with a sum, with an item and with nothing else. -/
def sumRule : Rule := .choice [.seq [.symbol "sum", .string "+", .symbol "item"], .symbol "item"]

theorem leftRecursion_told_sum :
    sumRule.IsWhole ∧ Rule.HidesNo "sum" sumRule ∧ Rule.HidesNo "sign" sumRule ∧ sumRule.HasSolidFront
      ∧ Rule.BeginsWith "sum" sumRule.expansions ∧ ¬ Rule.BeginsWith "sign" sumRule.expansions := by
  have whole : sumRule.IsWhole := Rule.whole_of_walk (by decide)
  have shows (target : String) : Rule.HidesNo target sumRule := by
    intro node fronts hides
    have plain : ∀ node ∈ sumRule.walk, node.kind.hides = false := by decide
    rw [plain node (Rule.mem_walk_iff.mpr fronts.contains)] at hides
    cases hides
  have solid : sumRule.HasSolidFront := by
    intro node fronts kind first held
    have symbols : ∀ node ∈ sumRule.walk, node.kind = .seq → ∀ first ∈ node.members.head?,
        first.kind = .symbol := by decide
    have symbol := symbols node (Rule.mem_walk_iff.mpr fronts.contains) kind first held
    rw [Rule.expansions_eq, Rule.expansionsOf, symbol]
    exact List.cons_ne_nil first [] ∘ Eq.symm
  have told (target : String) := (leftRecursion_told.1 sumRule target whole).full (shows target) solid
  refine ⟨whole, shows "sum", shows "sign", solid, (told "sum").mp (by decide), ?_⟩
  rw [← told]
  decide

/-- A rule that can begin with a reference which the check does not find. -/
def Overlooks (target : String) (rule : Rule) : Prop :=
  rule.IsWhole ∧ Rule.BeginsWith target rule.expansions ∧ rule.leadsWith target = false

/-- An item behind something that can be left out. -/
def signedRule : Rule := .seq [.optional (.string "-"), .symbol "item"]

def signedGrammar : Grammar where
  name := "signed"
  rules := Std.ExtTreeMap.ofList
    [("line", Rule.symbol "item"), ("item", Rule.choice [.string "x", signedRule])]

/-- A reference is overlooked behind something that can be empty, and inside of a repetition or a choice of
reserved words, and nothing is told of the rule that it makes left-recursive. -/
theorem leftRecursion_overlooked :
    Overlooks "item" signedRule ∧ Overlooks "item" (.many (.symbol "item"))
      ∧ Overlooks "item" (.many1 (.symbol "item")) ∧ Overlooks "item" (.wrap .reserved (.symbol "item"))
      ∧ Overlooks "item" (.choice [.string "x", signedRule])
      ∧ signedGrammar.check false = (.ok (), []) := by
  have own : Rule.BeginsWith "item" (Rule.symbol "item").expansions :=
    ⟨.symbol "item", [], rfl, rfl⟩
  have signed : Rule.BeginsWith "item" signedRule.expansions :=
    ⟨.symbol "item", [], Language.mem_mul.mpr ⟨[], .inr (.inl rfl), [.symbol "item"],
      Language.mem_mul.mpr ⟨[.symbol "item"], rfl, [], rfl, rfl⟩, rfl⟩, rfl⟩
  refine ⟨⟨Rule.whole_of_walk (by decide), signed, by decide⟩,
    ⟨Rule.whole_of_walk (by decide), Rule.beginsWith_kstar.mpr own, by decide⟩,
    ⟨Rule.whole_of_walk (by decide), Rule.beginsWith_many1.mpr own, by decide⟩,
    ⟨Rule.whole_of_walk (by decide), own, by decide⟩,
    ⟨Rule.whole_of_walk (by decide), Rule.beginsWith_sum.mpr ⟨_, .tail _ (.head _), signed⟩, by decide⟩,
    by decide +kernel⟩

end Grammar

end Treegram
