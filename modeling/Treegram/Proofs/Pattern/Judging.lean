import Treegram.Proofs.Pattern.Escaping
import Treegram.Proofs.Pattern.Translation

/-!
Sources that are put together from parts which need not be patterns. As long as no part escapes, the
whole is read if and only if each part can be read on its own and all their names are distinct.
-/

namespace Treegram.Pattern

/-- What comes of a text up to the rest: either it fits, and it is read with its names taken and the
same groups open as before, or it does not fit, and reading on fails. -/
inductive Verdict (ends : Parse → Prop) (parse : Parse) (text rest : List Char)
    (names : List String) (valid : Prop) : Prop where
  | reads {count : Nat} {next : Parse} (fit : valid) (reads : Reads count parse text next rest)
      (outer : next.outer = parse.outer) (taken : next.names = names.reverse ++ parse.names)
      (done : ends next)
  | fails (unfit : ¬ (valid ∧ (names.reverse ++ parse.names).Nodup)) (fails : Fails parse text)

section Verdict
variable {ends : Parse → Prop} {parse : Parse} {text rest : List Char} {names : List String}
  {valid : Prop}

theorem Verdict.congr {valid' : Prop} (same : valid ↔ valid')
    (verdict : Verdict ends parse text rest names valid) :
    Verdict ends parse text rest names valid' := by
  rwa [← same]

/-- A text is judged by its parts in turn. -/
theorem Verdict.andThen {between : List Char} {ends' : Parse → Prop} {names' : List String}
    {valid' : Prop} (distinct : parse.names.Nodup)
    (first : Verdict ends parse text between names valid)
    (second : ∀ next, ends next → next.outer = parse.outer → next.names.Nodup →
      Verdict ends' next between rest names' valid') :
    Verdict ends' parse text rest (names ++ names') (valid ∧ valid') := by
  cases first with
  | fails unfit fails =>
      refine .fails ?_ fails
      rintro ⟨⟨fit, _⟩, distinct⟩
      rw [List.reverse_append, List.append_assoc] at distinct
      exact unfit ⟨fit, (List.nodup_append.mp distinct).2.1⟩
  | reads fit reads outer taken done =>
      -- The second part is judged with the names of the first one taken, so the names add up.
      obtain ⟨_, _, stay⟩ := reads.names
      have all : (names'.reverse ++ (names.reverse ++ parse.names)) =
          (names ++ names').reverse ++ parse.names := by
        rw [List.reverse_append, List.append_assoc]
      cases second _ done outer (stay distinct) with
      | fails unfit fails =>
          refine .fails ?_ (reads.fails fails)
          rintro ⟨⟨_, fit'⟩, distinct⟩
          rw [← all, ← taken] at distinct
          exact unfit ⟨fit', distinct⟩
      | reads fit' further outer' taken' done' =>
          refine .reads ⟨fit, fit'⟩ (reads.trans further) (outer'.trans outer) ?_ done'
          rw [taken', taken, all]

end Verdict

/-- No flags have been set. -/
def Parse.IsBare (parse : Parse) : Prop := parse.group.flags = {}

theorem Parse.IsBare.plain {parse : Parse} (bare : parse.IsBare) :
    parse.group.flags.verbose = false := by
  rw [bare]

/-- Whether a source can be read is known, and which names it has, wherever it stands. -/
structure Judged (source : List Char) (names : List String) (valid : Prop) : Prop where
  head : source.head? ≠ some '?'
  verdict : ∀ (parse : Parse) (tail : List Char), parse.IsBare → parse.names.Nodup →
    tail.head? ≠ some '?' → Verdict Parse.IsBare parse (source ++ tail) tail names valid

theorem Judged.congr {source : List Char} {names : List String} {valid valid' : Prop}
    (same : valid ↔ valid') (judged : Judged source names valid) : Judged source names valid' := by
  rwa [← same]

/-- The same for what stands inside of a group, up to its end. -/
def Enclosed (foldCase : Bool) (content : List Char) (names : List String) (valid : Prop) : Prop :=
  ∀ (base : Parse) (tail : List Char), base.names.Nodup →
    Verdict (fun _ => True) (base.opened { foldCase }) (closed content tail) (closed [] tail) names
      valid

theorem Part.IsRead.judged {part : Part} (read : part.IsRead) :
    Judged part.source part.names True := by
  refine ⟨read.head, fun parse tail bare before noMark => ?_⟩
  by_cases distinct : (part.names.reverse ++ parse.names).Nodup
  · obtain ⟨_, _, _, _, reads, _⟩ := read.reads parse tail bare noMark distinct
    exact .reads trivial reads rfl rfl bare
  · exact .fails (fun fit => distinct fit.2) (read.fails parse tail bare noMark before distinct)

section Lists
variable {ι : Type} {source : ι → List Char} {names : ι → List String} {valid : ι → Prop}

/-- Parts side by side. -/
theorem judged_flatMap {items : List ι}
    (each : ∀ item ∈ items, Judged (source item) (names item) (valid item)) :
    Judged (items.flatMap source) (items.flatMap names) (∀ item ∈ items, valid item) := by
  induction items with
  | nil => exact isRead_empty.judged.congr (iff_of_true trivial nofun)
  | cons item items ih =>
      have first := each item List.mem_cons_self
      have others := ih fun other found => each other (List.mem_cons_of_mem _ found)
      refine ⟨head_append first.head others.head, fun parse tail bare before noMark => ?_⟩
      have one := first.verdict parse (items.flatMap source ++ tail) bare before
        (head_append others.head noMark)
      have both := one.andThen before fun next bare _ distinct =>
        others.verdict next tail bare distinct noMark
      rw [List.flatMap_cons, List.flatMap_cons, List.append_assoc]
      exact both.congr List.forall_mem_cons.symm

theorem bar_verdict {parse : Parse} (bare : parse.IsBare) (tail : List Char) :
    Verdict Parse.IsBare parse ('|' :: tail) tail [] True :=
  .reads trivial (.one bare.plain rfl rfl bare.plain) rfl rfl bare

/-- Sources with bars between them, up to the end of the group around them. -/
theorem bars_verdict {item : ι} {items : List ι}
    (each : ∀ other ∈ item :: items, Judged (source other) (names other) (valid other))
    {parse : Parse} (bare : parse.IsBare) (before : parse.names.Nodup) (tail : List Char) :
    Verdict Parse.IsBare parse (closed (['|'].intercalate ((item :: items).map source)) tail)
      (closed [] tail) ((item :: items).flatMap names) (∀ other ∈ item :: items, valid other) := by
  induction items generalizing item parse with
  | nil =>
      have only := (each item List.mem_cons_self).verdict parse (closed [] tail) bare before
        (head_ne (by decide) tail)
      simpa [closed] using only
  | cons second items ih =>
      have first := (each item List.mem_cons_self).verdict parse
        ('|' :: closed (['|'].intercalate ((second :: items).map source)) tail) bare before
        (head_ne (by decide) _)
      have others (next : Parse) (bare : next.IsBare) (distinct : next.names.Nodup) :=
        ih (fun other found => each other (List.mem_cons_of_mem _ found)) bare distinct
      have whole := first.andThen before fun next bare _ distinct =>
        (bar_verdict bare _).andThen distinct fun after bare _ distinct => others after bare distinct
      have shape : closed (['|'].intercalate ((item :: second :: items).map source)) tail =
          source item ++ '|' :: closed (['|'].intercalate ((second :: items).map source)) tail := by
        simp [closed, List.intercalate_cons_cons]
      rw [shape, List.flatMap_cons]
      apply whole.congr
      simp

theorem enclosed_alternatives {items : List ι}
    (each : ∀ item ∈ items, Judged (source item) (names item) (valid item)) :
    Enclosed false (['|'].intercalate (items.map source)) (items.flatMap names)
      (∀ item ∈ items, valid item) := by
  intro base tail before
  cases items with
  | nil => exact .reads nofun (.done rfl _) rfl rfl trivial
  | cons item items =>
      have bare : (base.opened {}).IsBare := rfl
      cases bars_verdict each bare before tail with
      | reads fit reads outer taken _ => exact .reads fit reads outer taken trivial
      | fails unfit fails => exact .fails unfit fails

end Lists

section Groups
variable {source : List Char}

/-- A pattern that does not escape, in a group. -/
theorem enclosed_pattern (quiet : IsQuiet source) (stays : ¬ Escapes (.start {}) source)
    (foldCase : Bool) :
    Enclosed foldCase source (groupNames {} source) ((Piece.read? source).isSome = true) := by
  intro base tail _
  have follows : Follows (base.group :: base.outer) base.names (.start {})
      (base.opened { foldCase }) := ⟨rfl, ⟨[], rfl, rfl⟩, rfl⟩
  cases follows.outcome quiet stays tail with
  | reads reads bottom within ends =>
      refine .reads (quiet.read_iff.mpr ⟨_, _, reads, bottom⟩) within ?_ ?_ trivial
      · obtain ⟨outer, shape, frames⟩ := ends.outer
        rw [bottom, List.map_nil, List.map_eq_nil_iff] at frames
        rw [shape, frames]
        rfl
      · rw [ends.names, reads.groupNames, List.reverse_reverse]
        rfl
  | fails fails unfit =>
      refine .fails ?_ fails
      rintro ⟨valid, distinct⟩
      obtain ⟨count, last, reads, bottom⟩ := quiet.read_iff.mp valid
      rw [reads.groupNames, List.reverse_reverse] at distinct
      exact unfit count last reads bottom distinct

/-- What may stand behind a group: nothing, or how often to repeat it. -/
def IsMark (mark : List Char) : Prop := mark = [] ∨ mark = ['?'] ∨ mark = ['*'] ∨ mark = ['+']

theorem mark_reads {mark : List Char} (fit : IsMark mark) {parse : Parse} (bare : parse.IsBare)
    (ready : parse.group.frame.isReady = true) {tail : List Char} (noMark : tail.head? ≠ some '?') :
    ∃ count next, Reads count parse (mark ++ tail) next tail ∧ next.IsBare
      ∧ next.outer = parse.outer ∧ next.names = parse.names := by
  have repeated {mark : Char} {low : Nat} {high : Option Nat}
      (lexeme : Lexeme.read? {} (mark :: tail) = some (.times low high, dropLazy tail)) :
      ∃ count next, Reads count parse (mark :: tail) next tail ∧ next.IsBare
        ∧ next.outer = parse.outer ∧ next.names = parse.names := by
    obtain ⟨next, stepped, flags, _, same⟩ := times_ready ready low high
    have bare' : next.IsBare := flags.trans bare
    rw [← bare, dropLazy_eq noMark] at lexeme
    exact ⟨1, next, .one bare.plain lexeme stepped bare'.plain, bare', same⟩
  rcases fit with rfl | rfl | rfl | rfl
  · exact ⟨0, parse, .done bare.plain tail, bare, rfl, rfl⟩
  · exact repeated rfl
  · exact repeated rfl
  · exact repeated rfl

/-- The parenthesis behind what stands in a group closes this group. -/
theorem close_reads {base last : Parse} (bare : base.IsBare) (plain : last.group.flags.verbose = false)
    (outer : last.outer = base.group :: base.outer) (tail : List Char) :
    ∃ next, Reads 1 last (closed [] tail) next tail ∧ next.IsBare
      ∧ next.group.frame.isReady = true ∧ next.outer = base.outer ∧ next.names = last.names := by
  have stepped := step_closeGroup_iff.mpr ⟨base.group, base.outer, outer, rfl⟩
  exact ⟨_, .one plain rfl stepped bare.plain, bare, rfl, rfl, rfl⟩

/-- A group is judged by what stands in it. -/
theorem Enclosed.judged {foldCase : Bool} {content : List Char} {names : List String} {valid : Prop}
    (enclosed : Enclosed foldCase content names valid) {mark : List Char} (fit : IsMark mark) :
    Judged (opening foldCase ++ closed content mark) names valid := by
  refine ⟨?_, fun parse tail bare before noMark => ?_⟩
  · cases foldCase <;> exact head_ne (by decide) _
  · have shape : opening foldCase ++ closed content mark ++ tail =
        opening foldCase ++ closed content (mark ++ tail) := by
      simp [closed]
    rw [shape]
    have opened := opening_reads bare foldCase (closed content (mark ++ tail))
    cases enclosed parse (mark ++ tail) before with
    | fails unfit fails => exact .fails unfit (opened.fails fails)
    | reads valid reads outer taken _ =>
        obtain ⟨next, closes, bare', ready, outer', taken'⟩ :=
          close_reads bare reads.plain outer (mark ++ tail)
        obtain ⟨_, after, marks, bare'', outer'', taken''⟩ := mark_reads fit bare' ready noMark
        refine .reads valid (opened.trans (reads.trans (closes.trans marks))) ?_ ?_ bare''
        · rw [outer'', outer']
        · rw [taken'', taken', taken]
          rfl

end Groups

/-- A source by itself is a pattern if it has been judged to be one. -/
theorem Judged.whole {source : List Char} {names : List String} {valid : Prop}
    (judged : Judged source names valid) :
    (Piece.read? source).isSome = true ↔ valid ∧ names.Nodup := by
  have verdict := judged.verdict (.start {}) [] rfl List.nodup_nil nofun
  rw [List.append_nil] at verdict
  have start : (Parse.start {}).names = [] := rfl
  cases verdict with
  | reads fit reads outer taken =>
      obtain ⟨_, _, distinct⟩ := reads.names
      rw [taken, start, List.append_nil, List.nodup_reverse] at distinct
      have ran := reads.run (Nat.lt_succ_of_le reads.count_le)
      rw [Piece.read?, Option.isSome_iff_exists]
      refine iff_of_true ⟨_, Option.bind_eq_some_iff.mpr ⟨_, ran, finish_eq_some.mpr ⟨outer, rfl⟩⟩⟩ ?_
      exact ⟨fit, distinct List.nodup_nil⟩
  | fails unfit fails =>
      rw [start, List.append_nil, List.nodup_reverse] at unfit
      have none : Piece.read? source = none := by
        rw [Piece.read?]
        exact congrArg (·.bind Parse.finish?) (fails _)
      rw [none]
      exact iff_of_false Bool.false_ne_true unfit

end Treegram.Pattern
