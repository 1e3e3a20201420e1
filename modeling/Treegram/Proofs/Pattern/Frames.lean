import Treegram.Proofs.Pattern.Folding
import Treegram.Proofs.Pattern.Reading

/-!
What decides how a pattern is read on: of each group that is open the flags and whether there is
something to repeat, and the names that are taken. What the pieces match is all one, and so are the
groups below, which only come into their own when everything above them has been closed.
-/

namespace Treegram.Pattern

/-- Lexemes that are the same but for what they match. -/
inductive Lexeme.Alike : Lexeme → Lexeme → Prop where
  | piece (own inner : Expr) (depth depth' : Nat) : Alike (.piece own depth) (.piece inner depth')
  | times (low : Nat) (high : Option Nat) : Alike (.times low high) (.times low high)
  | bar : Alike .bar .bar
  | openGroup (isCounted : Bool) (name : Option String) {own inner : Flags}
      (flags : inner.unfolded = own.unfolded) :
      Alike (.openGroup isCounted name own) (.openGroup isCounted name inner)
  | setFlags {own inner : Flags} (flags : inner.unfolded = own.unfolded) :
      Alike (.setFlags own) (.setFlags inner)
  | closeGroup : Alike .closeGroup .closeGroup

theorem alike_of_outline {own inner : Lexeme} (same : inner.outline = own.outline) :
    own.Alike inner := by
  cases own with
  | piece => cases inner <;> first | exact .piece _ _ _ _ | cases same
  | times =>
      cases inner <;> cases same
      exact .times _ _
  | bar => cases inner <;> first | exact .bar | cases same
  | openGroup =>
      cases inner <;> try cases same
      obtain ⟨rfl, rfl, flags⟩ := Lexeme.openGroup.inj same
      exact .openGroup _ _ flags
  | setFlags =>
      cases inner <;> try cases same
      exact .setFlags (Lexeme.setFlags.inj same)
  | closeGroup => cases inner <;> first | exact .closeGroup | cases same

/-- Under flags that differ only in whether case counts, the same lexemes are read or none. -/
theorem lexeme_alike {own inner : Flags} (flags : inner.unfolded = own.unfolded) (text : List Char) :
    (Lexeme.read? own text = none ∧ Lexeme.read? inner text = none)
      ∨ ∃ lexeme lexeme' rest, Lexeme.read? own text = some (lexeme, rest)
        ∧ Lexeme.read? inner text = some (lexeme', rest) ∧ lexeme.Alike lexeme' := by
  have same := (lexeme_unfolded inner text).symm.trans (flags ▸ lexeme_unfolded own text)
  rcases alike_cases same with ⟨left, right⟩ | ⟨⟨lexeme', rest⟩, ⟨lexeme, _⟩, left, right, same⟩
  · exact .inl ⟨right, left⟩
  · obtain ⟨outline, rfl⟩ := Prod.mk.inj same
    exact .inr ⟨lexeme, lexeme', rest, right, left, alike_of_outline outline⟩

/-- The flags of a group, not counting case, and whether its last piece can be repeated. -/
structure Frame where
  flags : Flags
  isReady : Bool

def Group.frame (group : Group) : Frame :=
  ⟨group.flags.unfolded, group.pieces.head?.any (!·.isFlags)⟩

section Times
variable {parse : Parse}

theorem times_ready (ready : parse.group.frame.isReady = true) (low : Nat) (high : Option Nat) :
    ∃ next, parse.step? (.times low high) = some next ∧ next.group.flags = parse.group.flags
      ∧ next.group.frame = parse.group.frame ∧ next.outer = parse.outer
      ∧ next.names = parse.names := by
  rw [Group.frame] at ready
  cases pieces : parse.group.pieces with
  | nil =>
      rw [pieces] at ready
      cases ready
  | cons piece before =>
      rw [pieces] at ready
      have solid : piece.isFlags = false := by simpa using ready
      refine ⟨_, step_times_iff.mpr ⟨piece, before, pieces, solid, rfl⟩, rfl, ?_, rfl, rfl⟩
      simp [Group.frame, Parse.repeating, pieces, solid]

theorem times_unready (unready : parse.group.frame.isReady = false) (low : Nat)
    (high : Option Nat) : parse.step? (.times low high) = none := by
  rw [Group.frame] at unready
  rw [Parse.step?]
  cases pieces : parse.group.pieces with
  | nil => rfl
  | cons piece before =>
      rw [pieces] at unready
      have flags : piece.isFlags = true := by simpa using unready
      exact if_pos flags

end Times

/-- The reading of `inner` follows that of `own`: the same groups are open on top of those `under`
them, and the same names have been taken besides those `taken` before. -/
structure Follows (under : List Group) (taken : List String) (own inner : Parse) : Prop where
  group : inner.group.frame = own.group.frame
  outer : ∃ outer, inner.outer = outer ++ under ∧ outer.map Group.frame = own.outer.map Group.frame
  names : inner.names = own.names ++ taken

namespace Follows

variable {under : List Group} {taken : List String} {own inner after : Parse}
  {lexeme lexeme' : Lexeme}

theorem flags (follows : Follows under taken own inner) :
    inner.group.flags.unfolded = own.group.flags.unfolded :=
  congrArg Frame.flags follows.group

theorem verbose (follows : Follows under taken own inner) :
    inner.group.flags.verbose = own.group.flags.verbose :=
  congrArg (·.flags.verbose) follows.group

/-- Only the innermost group changes. -/
theorem withGroup (follows : Follows under taken own inner) {group group' : Group}
    (same : group'.frame = group.frame) :
    Follows under taken { own with group } { inner with group := group' } :=
  ⟨same, follows.outer, follows.names⟩

theorem clash (follows : Follows under taken own inner) {name : Option String} :
    name.any inner.names.contains = (name.any own.names.contains || name.any taken.contains) := by
  rw [follows.names]
  cases name <;> simp

theorem opens (follows : Follows under taken own inner) {isCounted : Bool} {name : Option String}
    {flags flags' : Flags} (same : flags'.unfolded = flags.unfolded)
    (stepped : own.step? (.openGroup isCounted name flags) = some after) :
    (name.any taken.contains = false →
        ∃ next, inner.step? (.openGroup isCounted name flags') = some next
          ∧ Follows under taken after next)
      ∧ (name.any taken.contains = true →
        inner.step? (.openGroup isCounted name flags') = none) := by
  obtain ⟨outer, shape, frames⟩ := follows.outer
  obtain ⟨free, rfl⟩ := step_openGroup_iff.mp stepped
  have clash : name.any inner.names.contains = name.any taken.contains := by
    rw [follows.clash, free, Bool.false_or]
  constructor
  · intro new
    refine ⟨_, step_openGroup_iff.mpr ⟨clash.trans new, rfl⟩, ?_, ⟨inner.group :: outer, ?_, ?_⟩, ?_⟩
    · exact congrArg (Frame.mk · false) same
    · rw [Parse.entered, shape]
      rfl
    · rw [Parse.entered, List.map_cons, List.map_cons, follows.group, frames]
    · rw [Parse.entered, Parse.entered, follows.names, List.append_assoc]
  · exact fun old => if_pos (clash.trans old)

theorem closes (follows : Follows under taken own inner)
    (stepped : own.step? .closeGroup = some after) :
    ∃ next, inner.step? .closeGroup = some next ∧ Follows under taken after next := by
  obtain ⟨outer, shape, frames⟩ := follows.outer
  obtain ⟨around, further, ownOuter, rfl⟩ := step_closeGroup_iff.mp stepped
  rw [ownOuter, List.map_cons, List.map_eq_cons_iff] at frames
  obtain ⟨around', further', rfl, same, frames⟩ := frames
  have next := step_closeGroup_iff.mpr ⟨around', further' ++ under, shape, rfl⟩
  refine ⟨_, next, ?_, ⟨further', rfl, frames⟩, follows.names⟩
  exact congrArg (fun frame => Frame.mk frame.flags true) same

/-- A step that is possible on its own is possible here, unless it takes a name twice. -/
theorem step (follows : Follows under taken own inner) (alike : lexeme.Alike lexeme')
    (stepped : own.step? lexeme = some after) :
    (lexeme.groupName?.any taken.contains = false →
        ∃ next, inner.step? lexeme' = some next ∧ Follows under taken after next)
      ∧ (lexeme.groupName?.any taken.contains = true → inner.step? lexeme' = none) := by
  cases alike with
  | piece _ _ depth depth' =>
      cases stepped
      refine ⟨fun _ => ⟨_, rfl, follows.withGroup ?_⟩, nofun⟩
      exact congrArg (Frame.mk · true) follows.flags
  | times low high =>
      -- The frames agree, so there is something to repeat in both groups or in neither.
      cases ready : own.group.frame.isReady with
      | false =>
          rw [times_unready ready] at stepped
          cases stepped
      | true =>
          obtain ⟨_, ownStepped, _, group, outer, names⟩ := times_ready ready low high
          obtain rfl := Option.some.inj (ownStepped.symm.trans stepped)
          rw [← follows.group] at ready
          obtain ⟨next, innerStepped, _, group', outer', names'⟩ := times_ready ready low high
          refine ⟨fun _ => ⟨next, innerStepped, ?_, ?_, ?_⟩, nofun⟩
          · rw [group, group', follows.group]
          · rw [outer, outer']
            exact follows.outer
          · rw [names, names', follows.names]
  | bar =>
      cases stepped
      refine ⟨fun _ => ⟨_, rfl, follows.withGroup ?_⟩, nofun⟩
      exact congrArg (Frame.mk · false) follows.flags
  | openGroup isCounted name flags => exact follows.opens flags stepped
  | setFlags flags =>
      cases stepped
      refine ⟨fun _ => ⟨_, rfl, follows.withGroup ?_⟩, nofun⟩
      exact congrArg (Frame.mk · false) flags
  | closeGroup => exact ⟨fun _ => follows.closes stepped, nofun⟩

/-- Nor is a step possible that is not possible on its own. Only a parenthesis with nothing of its
own to close would close what lies under it. -/
theorem stuck (follows : Follows under taken own inner) (alike : lexeme.Alike lexeme')
    (stuck : own.step? lexeme = none)
    (inside : lexeme = .closeGroup → own.outer = [] → under = []) : inner.step? lexeme' = none := by
  cases alike with
  | times low high =>
      cases ready : own.group.frame.isReady with
      | false => exact times_unready (follows.group ▸ ready) low high
      | true =>
          obtain ⟨_, stepped, _⟩ := times_ready ready low high
          cases stepped.symm.trans stuck
  | openGroup isCounted name flags =>
      rw [Parse.step?] at stuck
      split at stuck
      · rename_i old
        rw [Parse.step?, follows.clash, old]
        rfl
      · cases stuck
  | closeGroup =>
      obtain ⟨outer, shape, frames⟩ := follows.outer
      rw [Parse.step?] at stuck
      split at stuck
      · rename_i bottom
        rw [bottom, List.map_nil, List.map_eq_nil_iff] at frames
        rw [Parse.step?, shape, frames, inside rfl bottom]
        rfl
      · cases stuck
  | piece | bar | setFlags => cases stuck

end Follows

/-- With nothing underneath, one reading is the other but for what is matched. -/
theorem run_follows {own inner : Parse} (follows : Follows [] [] own inner) (turns : Nat)
    (text : List Char) :
    (own.run? turns text = none ∧ inner.run? turns text = none)
      ∨ ∃ last last', own.run? turns text = some last ∧ inner.run? turns text = some last'
        ∧ Follows [] [] last last' := by
  induction turns generalizing own inner text with
  | zero => exact .inl ⟨rfl, rfl⟩
  | succ turns ih =>
      have skipped : inner.group.flags.skip text = own.group.flags.skip text := by
        rw [← Flags.unfolded_skip, follows.flags, Flags.unfolded_skip]
      rw [Parse.run?, Parse.run?, skipped]
      cases own.group.flags.skip text with
      | nil => exact .inr ⟨own, inner, rfl, rfl, follows⟩
      | cons c rest =>
          rcases lexeme_alike follows.flags (c :: rest) with
            ⟨left, right⟩ | ⟨lexeme, lexeme', behind, left, right, alike⟩
          · simp only [left, right]
            exact .inl ⟨rfl, rfl⟩
          · simp only [left, right, Option.bind_some]
            cases stepped : own.step? lexeme with
            | none =>
                rw [follows.stuck alike stepped fun _ _ => rfl]
                exact .inl ⟨rfl, rfl⟩
            | some after =>
                have free : lexeme.groupName?.any ([] : List String).contains = false := by
                  cases lexeme.groupName? <;> rfl
                obtain ⟨next, innerStepped, further⟩ := (follows.step alike stepped).1 free
                rw [innerStepped]
                exact ih further behind

/-- Whether case counts makes no difference to the names in a pattern. -/
theorem groupNames_foldCase (foldCase : Bool) (source : List Char) :
    groupNames { foldCase } source = groupNames {} source := by
  have follows : Follows [] [] { group := { flags := {} } } { group := { flags := { foldCase } } } :=
    ⟨rfl, ⟨[], rfl, rfl⟩, rfl⟩
  rw [groupNames, groupNames]
  rcases run_follows follows (source.length + 1) source with
    ⟨left, right⟩ | ⟨last, last', left, right, further⟩
  · rw [left, right]
  · rw [left, right]
    exact congrArg List.reverse (further.names.trans (List.append_nil _))

end Treegram.Pattern
