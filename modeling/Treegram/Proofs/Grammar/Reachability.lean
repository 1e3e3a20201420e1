import Mathlib.Data.List.Nodup
import Mathlib.Data.List.Perm.Subperm
import Mathlib.Logic.Relation
import Mathlib.Order.WellFounded
import Treegram.Proofs.Grammar.Verdict

/-!
Reachability. The worklist marks the rules among the names that can be reached, and no others, and
it has become empty when its turns are over. A search that marks a name only when it takes it out,
and so holds some names several times, reaches the same names and ends as well.
-/

namespace Treegram

namespace Reach

/-- The least set of names with the given ones in it and, with a rule, the names in that rule. -/
inductive From (rules : NameMap Rule) (names : List String) : String → Prop where
  | entry {name : String} (given : name ∈ names) : From rules names name
  | follow {name other : String} (reached : From rules names name)
      (next : other ∈ successors rules name) : From rules names other

variable {rules : NameMap Rule} {names : List String}

theorem mem_successors {name other : String} :
    other ∈ successors rules name ↔ ∃ rule, rules[name]? = some rule ∧ other ∈ rule.symbolNames := by
  rw [successors]
  cases rules[name]? with
  | none => simp
  | some rule => simp

/-! ## Marking a name when it is put in -/

/-- The names that are put in are marked with it: the rules among them that had no mark. -/
theorem enqueueAll_eq (rules : NameMap Rule) (work : Work) (names : List String) :
    ∃ fresh, enqueueAll rules work names = ⟨fresh ++ work.marked, fresh ++ work.pending⟩
      ∧ fresh.Nodup
      ∧ ∀ name, name ∈ fresh ↔ name ∈ names ∧ name ∈ rules ∧ name ∉ work.marked := by
  induction names generalizing work with
  | nil => exact ⟨[], rfl, List.nodup_nil, fun name => by simp⟩
  | cons first rest ih =>
      rw [enqueueAll, List.foldl_cons, ← enqueueAll]
      by_cases new : first ∈ rules ∧ first ∉ work.marked
      · have put : enqueue rules work first = ⟨first :: work.marked, first :: work.pending⟩ := by
          simp [enqueue, new]
        rw [put]
        obtain ⟨fresh, same, distinct, exact⟩ := ih ⟨first :: work.marked, first :: work.pending⟩
        refine ⟨fresh ++ [first], ?_, ?_, fun name => ?_⟩
        · rw [same, List.append_assoc, List.append_assoc]
          rfl
        · have unlike : first ∉ fresh := fun found => by simpa using ((exact first).mp found).2.2
          exact List.nodup_append.mpr ⟨distinct, List.nodup_singleton first, by grind⟩
        · rw [List.mem_append, exact, List.mem_singleton]
          grind
      · have kept : enqueue rules work first = work := by
          rw [not_and_not_right] at new
          rw [enqueue, if_pos]
          by_cases rule : first ∈ rules
          · simp [new rule]
          · simp [Bool.eq_false_iff.mpr (mt Std.ExtTreeMap.contains_iff_mem.mp rule)]
        rw [kept]
        obtain ⟨fresh, same, distinct, exact⟩ := ih work
        refine ⟨fresh, same, distinct, fun name => ?_⟩
        rw [exact]
        grind

/-- What is true of the work whenever a turn begins. -/
structure Work.Runs (rules : NameMap Rule) (names : List String) (work : Work) : Prop where
  reached : ∀ name ∈ work.marked, name ∈ rules ∧ From rules names name
  entries : ∀ name ∈ names, name ∈ rules → name ∈ work.marked
  known : ∀ name ∈ work.pending, name ∈ work.marked
  followed : ∀ name ∈ work.marked, name ∉ work.pending →
    ∀ other ∈ successors rules name, other ∈ rules → other ∈ work.marked
  distinct : work.marked.Nodup

theorem Work.Runs.begin (rules : NameMap Rule) (names : List String) :
    (enqueueAll rules ⟨[], []⟩ names).Runs rules names := by
  obtain ⟨fresh, same, distinct, exact⟩ := enqueueAll_eq rules ⟨[], []⟩ names
  rw [same]
  simp only [List.append_nil, List.not_mem_nil, not_false_eq_true, and_true] at exact ⊢
  constructor
  · intro name found
    exact ⟨((exact name).mp found).2, .entry ((exact name).mp found).1⟩
  · exact fun name given rule => (exact name).mpr ⟨given, rule⟩
  · exact fun _ found => found
  · exact fun name found apart => absurd found apart
  · exact distinct

theorem Work.Runs.turn {work : Work} (runs : work.Runs rules names) {name : String}
    {rest : List String} (first : work.pending = name :: rest) :
    (enqueueAll rules { work with pending := rest } (successors rules name)).Runs rules names := by
  obtain ⟨fresh, same, distinct, exact⟩ :=
    enqueueAll_eq rules { work with pending := rest } (successors rules name)
  have marked : name ∈ work.marked := runs.known name (first ▸ List.mem_cons_self)
  rw [same]
  constructor
  · intro other found
    rcases List.mem_append.mp found with new | earlier
    · obtain ⟨next, rule, _⟩ := (exact other).mp new
      exact ⟨rule, .follow (runs.reached name marked).2 next⟩
    · exact runs.reached other earlier
  · exact fun other given rule => List.mem_append_right _ (runs.entries other given rule)
  · intro other found
    rcases List.mem_append.mp found with new | earlier
    · exact List.mem_append_left _ new
    · exact List.mem_append_right _ (runs.known other (first ▸ List.mem_cons_of_mem _ earlier))
  · intro other found apart next step rule
    rw [List.mem_append, not_or] at apart
    have earlier : other ∈ work.marked := (List.mem_append.mp found).resolve_left apart.1
    -- Either this turn has followed the rule, or an earlier one has.
    by_cases here : other = name
    · subst here
      by_cases old : next ∈ work.marked
      · exact List.mem_append_right _ old
      · exact List.mem_append_left _ ((exact next).mpr ⟨step, rule, old⟩)
    · have out : other ∉ work.pending := by
        rw [first, List.mem_cons, not_or]
        exact ⟨here, apart.2⟩
      exact List.mem_append_right _ (runs.followed other earlier out next step rule)
  · exact List.nodup_append'.mpr ⟨distinct, runs.distinct, fun other new earlier =>
      ((exact other).mp new).2.2 earlier⟩

theorem Work.Runs.marked_le {work : Work} (runs : work.Runs rules names) :
    work.marked.length ≤ rules.size := by
  rw [← Std.ExtTreeMap.length_keys]
  exact (runs.distinct.subperm fun name found =>
    Std.ExtTreeMap.mem_keys.mpr (runs.reached name found).1).length_le

/-- Each turn takes one name out, and every name that is put in takes one of the marks that are left;
so there are turns enough as long as those and the marks make up for what waits. -/
theorem close_runs {work : Work} (runs : work.Runs rules names) {turns : Nat}
    (enough : work.pending.length + rules.size ≤ turns + work.marked.length) :
    (close rules turns work).Runs rules names ∧ (close rules turns work).pending = [] := by
  induction turns generalizing work with
  | zero =>
      have bound := runs.marked_le
      rw [close]
      exact ⟨runs, List.length_eq_zero_iff.mp (by omega)⟩
  | succ turns ih =>
      rw [close]
      cases waiting : work.pending with
      | nil => exact ⟨runs, waiting⟩
      | cons name rest =>
          have next := runs.turn waiting
          obtain ⟨fresh, same, _⟩ :=
            enqueueAll_eq rules { work with pending := rest } (successors rules name)
          simp only [same] at next ⊢
          refine ih next ?_
          rw [waiting, List.length_cons] at enough
          simp only [List.length_append]
          omega

/-- The work when it is over. -/
def final (rules : NameMap Rule) (names : List String) : Work :=
  close rules rules.size (enqueueAll rules ⟨[], []⟩ names)

theorem final_runs (rules : NameMap Rule) (names : List String) :
    (final rules names).Runs rules names ∧ (final rules names).pending = [] := by
  refine close_runs (.begin rules names) ?_
  obtain ⟨fresh, same, _⟩ := enqueueAll_eq rules ⟨[], []⟩ names
  rw [same, Nat.add_comm]

/-- The rules that are marked are those that can be reached. -/
theorem mem_reached {name : String} :
    name ∈ reached rules names ↔ name ∈ rules ∧ From rules names name := by
  obtain ⟨runs, done⟩ := final_runs rules names
  change name ∈ (final rules names).marked ↔ _
  constructor
  · exact runs.reached name
  · rintro ⟨rule, reached⟩
    induction reached with
    | entry given => exact runs.entries _ given rule
    | follow _ next ih =>
        -- A name with something behind it is a rule.
        obtain ⟨body, found, _⟩ := mem_successors.mp next
        have marked := ih (Std.ExtTreeMap.mem_iff_isSome_getElem?.mpr (found ▸ rfl))
        exact runs.followed _ marked (done ▸ List.not_mem_nil) _ next rule

/-! ## Marking a name when it is taken out -/

/-- One turn of a search by a stack of names, on which a name may stand several times. A name that
is taken off for the first time is marked, and all names in its rule are put on the stack. -/
inductive Turn (rules : NameMap Rule) : Work → Work → Prop where
  | again {marked rest : List String} {name : String} (known : name ∈ marked) :
      Turn rules ⟨marked, name :: rest⟩ ⟨marked, rest⟩
  | first {marked rest : List String} {name : String} (new : name ∉ marked) :
      Turn rules ⟨marked, name :: rest⟩
        ⟨name :: marked, (successors rules name).reverse ++ rest⟩

/-- The rules without a mark. -/
def Work.unmarked (rules : NameMap Rule) (work : Work) : List String :=
  rules.keys.filter (· ∉ work.marked)

theorem unmarked_cons (rules : NameMap Rule) (name : String) (marked pending rest : List String) :
    Work.unmarked rules ⟨name :: marked, rest⟩ =
      (Work.unmarked rules ⟨marked, pending⟩).filter (· ≠ name) := by
  rw [Work.unmarked, Work.unmarked, List.filter_filter]
  refine List.filter_congr fun other _ => ?_
  rw [← Bool.decide_and]
  exact decide_eq_decide.mpr (by rw [List.mem_cons, not_or])

/-- A turn either marks a rule or makes the stack shorter, so there is no end of turns. -/
theorem turn_wellFounded (rules : NameMap Rule) :
    WellFounded fun after before : Work => Turn rules before after := by
  let measure (work : Work) : Nat × Nat := ((work.unmarked rules).length, work.pending.length)
  refine Subrelation.wf (r := InvImage (Prod.Lex (· < ·) (· < ·)) measure) ?_
    (InvImage.wf measure (WellFounded.prod_lex Nat.lt_wfRel.wf Nat.lt_wfRel.wf))
  intro after before turn
  cases turn with
  | again known => exact .right _ (Nat.lt_succ_self _)
  | @first marked rest name new =>
      simp only [InvImage, measure, unmarked_cons rules name marked (name :: rest)]
      by_cases rule : name ∈ rules
      · refine .left _ _ (List.length_filter_lt_length_iff_exists.mpr ⟨name, ?_, by simp⟩)
        exact List.mem_filter.mpr ⟨Std.ExtTreeMap.mem_keys.mpr rule, decide_eq_true new⟩
      · have leaf : successors rules name = [] := by
          rw [successors, Std.ExtTreeMap.getElem?_eq_none rule]
          rfl
        have kept : (Work.unmarked rules ⟨marked, name :: rest⟩).filter (· ≠ name) =
            Work.unmarked rules ⟨marked, name :: rest⟩ := by
          refine List.filter_eq_self.mpr fun other found => decide_eq_true ?_
          rintro rfl
          exact rule (Std.ExtTreeMap.mem_keys.mp (List.mem_filter.mp found).1)
        rw [leaf, kept]
        exact .right _ (Nat.lt_succ_self _)

/-- What is true of the stack and the marks whenever a turn begins. -/
structure Work.Searches (rules : NameMap Rule) (names : List String) (work : Work) : Prop where
  marked : ∀ name ∈ work.marked, From rules names name
  pending : ∀ name ∈ work.pending, From rules names name
  entries : ∀ name ∈ names, name ∈ work.marked ∨ name ∈ work.pending
  followed : ∀ name ∈ work.marked, ∀ other ∈ successors rules name,
    other ∈ work.marked ∨ other ∈ work.pending

theorem Work.Searches.turn {before after : Work} (searches : before.Searches rules names)
    (turn : Turn rules before after) : after.Searches rules names := by
  obtain ⟨marked, pending, entries, followed⟩ := searches
  -- A name that comes off the stack leaves nothing behind if it was marked before, and else its own
  -- successors, so what has been followed stays accounted for.
  cases turn with
  | @again known rest name old =>
      have kept {other : String} (found : other ∈ known ∨ other ∈ name :: rest) :
          other ∈ known ∨ other ∈ rest := by
        rcases found with found | found
        · exact .inl found
        · rcases List.mem_cons.mp found with rfl | later
          · exact .inl old
          · exact .inr later
      exact ⟨marked, fun other found => pending other (List.mem_cons_of_mem _ found),
        fun other given => kept (entries other given),
        fun other found next step => kept (followed other found next step)⟩
  | @first known rest name new =>
      have here : From rules names name := pending name List.mem_cons_self
      have kept {other : String} (found : other ∈ known ∨ other ∈ name :: rest) :
          other ∈ name :: known ∨ other ∈ (successors rules name).reverse ++ rest := by
        grind
      refine ⟨?_, ?_, fun other given => kept (entries other given), ?_⟩
      · exact List.forall_mem_cons.mpr ⟨here, marked⟩
      · intro other found
        rcases List.mem_append.mp found with next | later
        · exact .follow here (List.mem_reverse.mp next)
        · exact pending other (List.mem_cons_of_mem _ later)
      · intro other found next step
        rcases List.mem_cons.mp found with rfl | earlier
        · exact .inr (List.mem_append_left _ (List.mem_reverse.mpr step))
        · exact kept (followed other earlier next step)

theorem Work.Searches.run {before after : Work} (searches : before.Searches rules names)
    (run : Relation.ReflTransGen (Turn rules) before after) : after.Searches rules names := by
  induction run with
  | refl => exact searches
  | tail _ turn ih => exact ih.turn turn

/-- Where no turn can be made, the stack is empty. -/
theorem pending_of_stuck {work : Work} (stuck : ∀ after, ¬ Turn rules work after) :
    work.pending = [] := by
  obtain ⟨marked, pending⟩ := work
  cases pending with
  | nil => rfl
  | cons name rest =>
      by_cases known : name ∈ marked
      · exact absurd (.again known) (stuck _)
      · exact absurd (.first known) (stuck _)

/-- When the search has ended, the marked names are those that can be reached. -/
theorem mem_searched {last : Work}
    (run : Relation.ReflTransGen (Turn rules) ⟨[], names.reverse⟩ last)
    (stuck : ∀ after, ¬ Turn rules last after) {name : String} :
    name ∈ last.marked ↔ From rules names name := by
  have begins : Work.Searches rules names ⟨[], names.reverse⟩ :=
    ⟨nofun, fun other found => .entry (List.mem_reverse.mp found),
      fun other given => .inr (List.mem_reverse.mpr given), nofun⟩
  have searches := begins.run run
  have done := pending_of_stuck stuck
  constructor
  · exact searches.marked name
  · intro reached
    induction reached with
    | entry given => simpa [done] using searches.entries _ given
    | follow _ next ih => simpa [done] using searches.followed _ ih _ next

end Reach

namespace Grammar
variable {grammar : Grammar} {start : String}

/-- The least set of names with the start rule, the references in the extras and the names of the
external tokens in it and, with a rule, the references in that rule. -/
inductive IsReachable (grammar : Grammar) (start : String) : String → Prop where
  | start : IsReachable grammar start start
  | extra {extra node : Rule} {name : String} (held : extra ∈ grammar.extraRules)
      (inside : extra.Contains node) (kind : node.kind = .symbol) (named : node.name = some name) :
      IsReachable grammar start name
  | external {external : Rule} {name : String} (held : external ∈ grammar.externalRules)
      (declares : externalName? external = some name) : IsReachable grammar start name
  | follow {name other : String} {rule node : Rule} (reached : IsReachable grammar start name)
      (found : grammar.rules[name]? = some rule) (inside : rule.Contains node)
      (kind : node.kind = .symbol) (named : node.name = some other) : IsReachable grammar start other

theorem mem_entryNames {name : String} :
    name ∈ grammar.entryNames start ↔ name = start
      ∨ (∃ extra ∈ grammar.extraRules, name ∈ extra.symbolNames) ∨ name ∈ grammar.externalNames := by
  rw [entryNames, List.cons_append, List.mem_cons, List.mem_append, List.mem_flatMap]

theorem from_entryNames {name : String} :
    Reach.From grammar.rules (grammar.entryNames start) name ↔ grammar.IsReachable start name := by
  constructor
  · intro reached
    induction reached with
    | entry given =>
        rcases mem_entryNames.mp given with rfl | ⟨extra, held, named⟩ | declared
        · exact .start
        · obtain ⟨node, inside, kind, named⟩ := mem_symbolNames.mp named
          exact .extra held inside kind named
        · obtain ⟨external, held, declares⟩ := mem_externalNames.mp declared
          exact .external held declares
    | follow _ next ih =>
        obtain ⟨rule, found, named⟩ := Reach.mem_successors.mp next
        obtain ⟨node, inside, kind, named⟩ := mem_symbolNames.mp named
        exact .follow ih found inside kind named
  · intro reached
    induction reached with
    | start => exact .entry (mem_entryNames.mpr (.inl rfl))
    | extra held inside kind named =>
        exact .entry (mem_entryNames.mpr
          (.inr (.inl ⟨_, held, mem_symbolNames.mpr ⟨_, inside, kind, named⟩⟩)))
    | external held declares =>
        exact .entry (mem_entryNames.mpr (.inr (.inr (mem_externalNames.mpr ⟨_, held, declares⟩))))
    | follow _ found inside kind named ih =>
        exact .follow ih (Reach.mem_successors.mpr
          ⟨_, found, mem_symbolNames.mpr ⟨_, inside, kind, named⟩⟩)

/-- A rule that cannot be reached and is not meant to be, because it is to be inlined, apart. -/
def IsUnreachable (grammar : Grammar) (start name : String) : Prop :=
  name ∈ grammar.rules ∧ ¬ grammar.IsReachable start name ∧ name ∉ grammar.inlinedNames

theorem mem_unreachableRules {name : String} :
    name ∈ grammar.unreachableRules start ↔ grammar.IsUnreachable start name := by
  simp only [unreachableRules, List.mem_filter, Std.ExtTreeMap.mem_keys, Bool.and_eq_true,
    Bool.not_eq_true', List.contains_eq_mem, decide_eq_false_iff_not, Reach.mem_reached,
    from_entryNames, IsUnreachable]
  exact and_congr_right fun rule => and_congr_left fun _ => by rw [and_iff_right rule]

theorem unreachableRules_sorted (grammar : Grammar) (start : String) :
    (grammar.unreachableRules start).Pairwise
      (fun name other => Unicode.utf8Bytes name < Unicode.utf8Bytes other) :=
  (Std.ExtTreeMap.ordered_keys.filter _).imp Unicode.utf8Bytes_lt

/-- What a check that is not strict has found, and what a strict one adds to it. -/
structure ReportsUnreachable (grammar : Grammar) (start : String) : Prop where
  /-- The worklist has become empty when its turns are over, with the rules within reach marked. -/
  ended : (Reach.final grammar.rules (grammar.entryNames start)).pending = []
  marked : ∀ name, name ∈ Reach.reached grammar.rules (grammar.entryNames start) ↔
    name ∈ grammar.rules ∧ grammar.IsReachable start name
  /-- A search by a stack always ends, and then the names within reach are marked. -/
  ends : WellFounded fun after before => Reach.Turn grammar.rules before after
  searched : ∀ last, Relation.ReflTransGen (Reach.Turn grammar.rules)
      ⟨[], (grammar.entryNames start).reverse⟩ last →
    (∀ after, ¬ Reach.Turn grammar.rules last after) →
      ∀ name, name ∈ last.marked ↔ grammar.IsReachable start name
  /-- The remarks name the unreachable rules, in the order of their bytes, and nothing else does. -/
  remarked : ∃ (names : List String) (others : List Event), (grammar.check false).2 = names.map .unreachableRule ++ others
    ∧ (∀ name, .unreachableRule name ∉ others)
    ∧ names.Pairwise (fun name other => Unicode.utf8Bytes name < Unicode.utf8Bytes other)
    ∧ ∀ name, name ∈ names ↔ grammar.IsUnreachable start name
  /-- A strict check passes if there are none, and reports the first of them otherwise. -/
  passes : (grammar.check true).1 = .ok () ↔ ∀ name, ¬ grammar.IsUnreachable start name
  reports : ∀ defect, (grammar.check true).1 = .error defect ↔
    ∃ name, defect = .unreachableRule name ∧ grammar.IsUnreachable start name
      ∧ ∀ other, grammar.IsUnreachable start other → other ≠ name →
        Unicode.utf8Bytes name < Unicode.utf8Bytes other

/-- Being strict only adds the question whether all rules are within reach. -/
theorem defect_strict (sound : grammar.defect? false = none) :
    grammar.defect? true = grammar.unreachableRule? := by
  rw [defect?] at sound ⊢
  split at sound
  · cases sound
  · rename_i rules
    rw [if_neg rules]
    simp only [Option.orElse_eq_orElse, Option.orElse_eq_or, Bool.false_eq_true, if_false,
      Option.or_none, Option.or_eq_none_iff] at sound
    simp [sound]

theorem not_mem_otherRemarks (grammar : Grammar) (name : String) :
    Event.unreachableRule name ∉ grammar.leftRecursiveRules.map .leftRecursiveRule
      ++ grammar.rules.toList.filterMap fun (name, rule) =>
        if 1 < rule.levels.length then some (.mixedLevels name rule.levels) else none := by
  simp

/-- Whether strict or not, a check tells apart the rules that can be reached and those that cannot. -/
theorem check_unreachable (accepted : (grammar.check false).1 = .ok ()) :
    ∃ start, grammar.startRule? = some start ∧ grammar.ReportsUnreachable start := by
  have sound : grammar.defect? false = none := by
    rw [check] at accepted
    cases verdict : grammar.defect? false with
    | none => rfl
    | some defect => simp [verdict] at accepted
  obtain ⟨start, root⟩ := startRule?_isSome sound
  have names : grammar.unreachable = grammar.unreachableRules start := by
    rw [unreachable, root]
    rfl
  have sorted := grammar.unreachableRules_sorted start
  have strictly : (grammar.check true).1 = (grammar.unreachableRules start).head?.elim (.ok ())
      (fun name => .error (.unreachableRule name)) := by
    rw [check, defect_strict sound, unreachableRule?, names]
    cases grammar.unreachableRules start <;> rfl
  have exact (name : String) := @mem_unreachableRules grammar start name
  refine ⟨start, root, (Reach.final_runs _ _).2, ?_, Reach.turn_wellFounded _, ?_, ?_, ?_, ?_⟩
  · intro name
    rw [Reach.mem_reached, from_entryNames]
  · intro last run stuck name
    rw [Reach.mem_searched run stuck, from_entryNames]
  · refine ⟨grammar.unreachableRules start, _, ?_, grammar.not_mem_otherRemarks, sorted, exact⟩
    rw [check, sound, remarks, names, List.append_assoc]
  · rw [strictly]
    cases shape : grammar.unreachableRules start with
    | nil => simp [← exact, shape]
    | cons first rest =>
        refine iff_of_false (by simp) fun none => none first ?_
        rw [← exact, shape]
        exact List.mem_cons_self
  · intro defect
    rw [strictly]
    simp only [← exact]
    -- The names ascend, so the first one, which is the one told of, is the least.
    cases shape : grammar.unreachableRules start with
    | nil => simp
    | cons first rest =>
        rw [shape] at sorted
        have least := (List.pairwise_cons.mp sorted).1
        simp only [List.head?_cons, Option.elim_some, Except.error.injEq]
        constructor
        · rintro rfl
          refine ⟨first, rfl, List.mem_cons_self, fun other found unlike => ?_⟩
          exact least other ((List.mem_cons.mp found).resolve_left unlike)
        · rintro ⟨name, rfl, found, below⟩
          rcases List.mem_cons.mp found with rfl | later
          · rfl
          · by_contra unlike
            have less := below first List.mem_cons_self fun same => unlike (by rw [same])
            exact absurd (least name later) (List.lt_asymm less)

/-- Two rules that refer to each other and that nothing else refers to, and one to be inlined. -/
def cyclicGrammar : Grammar where
  name := "cyclic"
  rules := Std.ExtTreeMap.ofList
    [("program", Rule.string "x"), ("left", Rule.symbol "right"),
      ("right", Rule.choice [.symbol "left", .string "y"]), ("spare", Rule.symbol "spare")]
  inlined := some ["spare"]

theorem check_unreachable_cyclic :
    (cyclicGrammar.check false).1 = .ok () ∧ cyclicGrammar.ReportsUnreachable "program"
      ∧ cyclicGrammar.IsUnreachable "program" "left" ∧ ¬ cyclicGrammar.IsUnreachable "program" "spare"
      ∧ (cyclicGrammar.check true).1 = .error (.unreachableRule "left") := by
  have accepted : (cyclicGrammar.check false).1 = .ok () := by decide +kernel
  have root : cyclicGrammar.startRule? = some "program" := by decide +kernel
  have refused : (cyclicGrammar.check true).1 = .error (.unreachableRule "left") := by decide +kernel
  obtain ⟨start, same, reports⟩ := check_unreachable accepted
  obtain rfl := Option.some.inj (root.symm.trans same)
  obtain ⟨name, found, unreachable, _⟩ := (reports.reports _).mp refused
  obtain rfl := Defect.unreachableRule.inj found
  exact ⟨accepted, reports, unreachable, fun spare => spare.2.2 (by decide), refused⟩

end Grammar

end Treegram
