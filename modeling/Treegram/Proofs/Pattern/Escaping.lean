import Treegram.Proofs.Pattern.Frames
import Treegram.Proofs.Pattern.Progress

/-!
Patterns that keep to their group. A text escapes from the group it is put into if the parenthesis
behind it does not close that group: because the text has closed it before, because a group of its
own is still open, or because the parenthesis becomes a part of its last lexeme. A text that does
not escape is read in a group if and only if it is a pattern on its own and brings no name that is
taken.
-/

namespace Treegram.Pattern

/-- The parenthesis behind the text closes something else than the group around it. -/
inductive Escapes : Parse → List Char → Prop where
  | closes {parse : Parse} {text behind : List Char}
      (read : Lexeme.read? parse.group.flags text = some (.closeGroup, behind))
      (bottom : parse.outer = []) : Escapes parse text
  | staysOpen {parse : Parse} (inside : parse.outer ≠ []) : Escapes parse []
  | runsOn {parse : Parse} {text tail : List Char} (some : text ≠ [])
      (cut : Lexeme.read? parse.group.flags text = none)
      (read : (Lexeme.read? parse.group.flags (closed text tail)).isSome = true) : Escapes parse text
  | next {parse between : Parse} {lexeme : Lexeme} {text behind : List Char}
      (read : Lexeme.read? parse.group.flags text = some (lexeme, behind))
      (stepped : parse.step? lexeme = some between) (escapes : Escapes between behind) :
      Escapes parse text

/-- The beginning of a pattern on its own. -/
def Parse.start (flags : Flags) : Parse := { group := { flags } }

/-- A pattern that is never in verbose mode. -/
def IsQuiet (source : List Char) : Prop :=
  ∀ parse, Reaches (.start {}) source parse → parse.group.flags.verbose = false

section Reads
variable {count : Nat} {start last : Parse} {text rest : List Char}

/-- Nothing is a lexeme at this place. -/
theorem Fails.unread (plain : start.group.flags.verbose = false)
    (some : text ≠ []) (none : Lexeme.read? start.group.flags text = none) : Fails start text := by
  intro turns
  cases turns with
  | zero => rfl
  | succ turns =>
      rw [Parse.run?, Flags.skip_plain plain]
      cases text with
      | nil => exact absurd rfl some
      | cons c rest =>
          simp only [none]
          rfl

theorem Reads.count_le (reads : Reads count start text last rest) :
    count + rest.length ≤ text.length := by
  induction reads with
  | done => exact Nat.le_of_eq (Nat.zero_add _)
  | next plain read stepped further ih =>
      have shorter := lexeme_shorter read
      omega

/-- What is read up to the end begins with the lexeme in front. -/
theorem Reads.first {lexeme : Lexeme} {behind : List Char} (reads : Reads count start text last [])
    (read : Lexeme.read? start.group.flags text = some (lexeme, behind)) :
    ∃ fewer between, start.step? lexeme = some between ∧ Reads fewer between behind last [] := by
  cases reads with
  | done => cases read
  | next _ read' stepped further =>
      obtain ⟨rfl, rfl⟩ := Prod.mk.inj (Option.some.inj (read'.symm.trans read))
      exact ⟨_, _, stepped, further⟩

/-- A quiet pattern can be read if its lexemes can be read up to the end with no group left open. -/
theorem IsQuiet.read_iff {source : List Char} (quiet : IsQuiet source) :
    (Piece.read? source).isSome = true ↔
      ∃ count last, Reads count (.start {}) source last [] ∧ last.outer = [] := by
  rw [Option.isSome_iff_exists]
  constructor
  · rintro ⟨piece, read⟩
    obtain ⟨last, ran, finished⟩ := Option.bind_eq_some_iff.mp read
    obtain ⟨count, _, reads⟩ := reads_of_run quiet ran
    exact ⟨count, last, reads, (finish_eq_some.mp finished).1⟩
  · rintro ⟨count, last, reads, bottom⟩
    have ran := reads.run (Nat.lt_succ_of_le reads.count_le)
    exact ⟨last.group.content, Option.bind_eq_some_iff.mpr
      ⟨last, ran, finish_eq_some.mpr ⟨bottom, rfl⟩⟩⟩

/-- What escapes is no pattern on its own: a parenthesis has nothing to close, or a group is open at
the end, or a lexeme is cut off. -/
theorem Escapes.not_read (escapes : Escapes start text) (reads : Reads count start text last []) :
    last.outer ≠ [] := by
  induction escapes generalizing count with
  | closes read bottom =>
      obtain ⟨_, _, stepped, _⟩ := reads.first read
      obtain ⟨_, _, inside, _⟩ := step_closeGroup_iff.mp stepped
      cases bottom.symm.trans inside
  | staysOpen inside =>
      cases reads with
      | done => exact inside
      | next _ read _ _ => cases read
  | runsOn solid cut _ =>
      cases reads with
      | done => exact absurd rfl solid
      | next _ read _ _ => cases cut.symm.trans read
  | next read stepped _ ih =>
      obtain ⟨_, _, possible, reads⟩ := reads.first read
      obtain rfl := Option.some.inj (stepped.symm.trans possible)
      exact ih reads

theorem IsQuiet.not_escapes {source : List Char} (quiet : IsQuiet source)
    (valid : (Piece.read? source).isSome = true) : ¬ Escapes (.start {}) source := by
  intro escapes
  obtain ⟨count, last, reads, bottom⟩ := quiet.read_iff.mp valid
  exact escapes.not_read reads bottom

theorem Reads.groupNames {source : List Char} (reads : Reads count (.start {}) source last []) :
    groupNames {} source = last.names.reverse := by
  have ran : Parse.run? (source.length + 1) (.start {}) source = some last :=
    reads.run (Nat.lt_succ_of_le reads.count_le)
  rw [Pattern.groupNames]
  exact congrArg (fun parse => (Option.elim parse [] Parse.names).reverse) ran

end Reads

/-- What comes of a text in a group: it is read there up to its end as it is on its own, or the
group fails, and then the text cannot be read on its own or takes a name twice. -/
inductive Outcome (under : List Group) (taken : List String) (own inner : Parse)
    (text tail : List Char) : Prop where
  | reads {count : Nat} {last final : Parse} (reads : Reads count own text last [])
      (bottom : last.outer = []) (within : Reads count inner (closed text tail) final (closed [] tail))
      (follows : Follows under taken last final)
  | fails (fails : Fails inner (closed text tail))
      (unfit : ∀ count last, Reads count own text last [] → last.outer = [] →
        ¬ (last.names ++ taken).Nodup)

section Follows
variable {under : List Group} {taken : List String} {own inner between after : Parse}
  {lexeme lexeme' : Lexeme} {text behind tail : List Char}

/-- The lexeme in front is the same in a group. -/
theorem Follows.reads_lexeme (follows : Follows under taken own inner)
    (plain : own.group.flags.verbose = false)
    (read : Lexeme.read? own.group.flags text = some (lexeme, behind)) (tail : List Char) :
    ∃ lexeme', Lexeme.read? inner.group.flags (closed text tail) = some (lexeme', closed behind tail)
      ∧ lexeme.Alike lexeme' := by
  have ahead := lexeme_local plain text tail _ read
  rcases lexeme_alike follows.flags (closed text tail) with
    ⟨cut, _⟩ | ⟨_, lexeme', _, ownRead, innerRead, alike⟩
  · exact absurd (ahead.symm.trans cut) nofun
  · obtain ⟨rfl, rfl⟩ := Prod.mk.inj (Option.some.inj (ahead.symm.trans ownRead))
    exact ⟨lexeme', innerRead, alike⟩

/-- Where there is no lexeme there is none in a group, unless the text runs on. -/
theorem Follows.reads_none (follows : Follows under taken own inner) (solid : text ≠ [])
    (cut : Lexeme.read? own.group.flags text = none) (stays : ¬ Escapes own text)
    (tail : List Char) : Lexeme.read? inner.group.flags (closed text tail) = none := by
  have ahead : Lexeme.read? own.group.flags (closed text tail) = none :=
    Option.not_isSome_iff_eq_none.mp fun read => stays (.runsOn solid cut read)
  rcases lexeme_alike follows.flags (closed text tail) with ⟨_, innerCut⟩ | ⟨_, _, _, read, _⟩
  · exact innerCut
  · exact absurd (ahead.symm.trans read) nofun

/-- A name that is taken again stays among the names. -/
theorem Reads.not_distinct {count : Nat} {last : Parse} {rest : List Char}
    (reads : Reads count between behind last rest) (stepped : own.step? lexeme = some between)
    (clash : lexeme.groupName?.any taken.contains = true) : ¬ (last.names ++ taken).Nodup := by
  obtain ⟨name, now, old⟩ := any_contains.mp clash
  obtain ⟨later, names, _⟩ := reads.names
  have found : name ∈ last.names := by
    rw [names, (step_names stepped).1]
    exact List.mem_append_right _ (List.mem_append_left _ now)
  intro distinct
  exact (List.nodup_append.mp distinct).2.2 name found name old rfl

/-- Nothing comes of a text without a lexeme. -/
theorem Outcome.unread (plain : inner.group.flags.verbose = false) (solid : text ≠ [])
    (cut : Lexeme.read? own.group.flags text = none)
    (innerCut : Lexeme.read? inner.group.flags (closed text tail) = none) :
    Outcome under taken own inner text tail := by
  apply Outcome.fails
  · exact .unread plain (List.append_ne_nil_of_left_ne_nil solid _) innerCut
  · intro count last reads
    cases reads with
    | done => exact absurd rfl solid
    | next _ read _ _ => exact absurd (cut.symm.trans read) nofun

/-- Nor of a lexeme that can do nothing. -/
theorem Outcome.stuck (plain : inner.group.flags.verbose = false)
    (read : Lexeme.read? own.group.flags text = some (lexeme, behind))
    (innerRead : Lexeme.read? inner.group.flags (closed text tail) = some (lexeme', closed behind tail))
    (stuck : own.step? lexeme = none) (innerStuck : inner.step? lexeme' = none) :
    Outcome under taken own inner text tail := by
  apply Outcome.fails (.stuck plain innerRead innerStuck)
  intro count last reads
  obtain ⟨_, _, possible, _⟩ := reads.first read
  exact absurd (stuck.symm.trans possible) nofun

/-- A name that is taken stops the group, though not the text. -/
theorem Outcome.clash (plain : inner.group.flags.verbose = false)
    (read : Lexeme.read? own.group.flags text = some (lexeme, behind))
    (innerRead : Lexeme.read? inner.group.flags (closed text tail) = some (lexeme', closed behind tail))
    (clash : lexeme.groupName?.any taken.contains = true) (innerStuck : inner.step? lexeme' = none) :
    Outcome under taken own inner text tail := by
  apply Outcome.fails (.stuck plain innerRead innerStuck)
  intro count last reads _
  obtain ⟨_, _, stepped, reads⟩ := reads.first read
  exact reads.not_distinct stepped clash

/-- What comes of the text is what comes of the rest behind a lexeme. -/
theorem Outcome.next (plain : own.group.flags.verbose = false)
    (innerPlain : inner.group.flags.verbose = false)
    (read : Lexeme.read? own.group.flags text = some (lexeme, behind))
    (innerRead : Lexeme.read? inner.group.flags (closed text tail) = some (lexeme', closed behind tail))
    (stepped : own.step? lexeme = some between) (innerStepped : inner.step? lexeme' = some after)
    (later : Outcome under taken between after behind tail) :
    Outcome under taken own inner text tail := by
  cases later with
  | reads reads bottom within follows =>
      exact .reads (.next plain read stepped reads) bottom
        (.next innerPlain innerRead innerStepped within) follows
  | fails fails unfit =>
      apply Outcome.fails (fails.next innerPlain innerRead innerStepped)
      intro count last reads bottom
      obtain ⟨_, _, possible, reads⟩ := reads.first read
      obtain rfl := Option.some.inj (stepped.symm.trans possible)
      exact unfit _ last reads bottom

/-- A text that does not escape has such an outcome in every group. -/
theorem Follows.outcome (follows : Follows under taken own inner)
    (quiet : ∀ parse, Reaches own text parse → parse.group.flags.verbose = false)
    (stays : ¬ Escapes own text) (tail : List Char) : Outcome under taken own inner text tail := by
  -- On the length of the text, which every lexeme makes shorter. Both readings take the same lexemes;
  -- as the text does not escape, only a name that is taken can stop the one inside alone.
  induction size : text.length using Nat.strongRecOn generalizing own inner text with
  | ind length ih =>
      have plain := quiet own (.here own text)
      have innerPlain : inner.group.flags.verbose = false := follows.verbose.trans plain
      by_cases ended : text = []
      · rw [ended] at stays ⊢
        have bottom : own.outer = [] := by_contra fun inside => stays (.staysOpen inside)
        exact .reads (.done plain []) bottom (.done innerPlain _) follows
      cases read : Lexeme.read? own.group.flags text with
      | none => exact .unread innerPlain ended read (follows.reads_none ended read stays tail)
      | some found =>
          obtain ⟨lexeme, behind⟩ := found
          obtain ⟨lexeme', innerRead, alike⟩ := follows.reads_lexeme plain read tail
          cases stepped : own.step? lexeme with
          | none =>
              have inside (closing : lexeme = .closeGroup) (bottom : own.outer = []) : under = [] :=
                absurd (.closes (closing ▸ read) bottom) stays
              exact .stuck innerPlain read innerRead stepped (follows.stuck alike stepped inside)
          | some between =>
              obtain ⟨goes, stuck⟩ := follows.step alike stepped
              cases clash : lexeme.groupName?.any taken.contains with
              | true => exact .clash innerPlain read innerRead clash (stuck clash)
              | false =>
                  obtain ⟨after, innerStepped, further⟩ := goes clash
                  refine .next plain innerPlain read innerRead stepped innerStepped ?_
                  apply ih behind.length (size ▸ lexeme_shorter read) further ?_ ?_ rfl
                  · intro parse reaches
                    refine quiet parse (.next ?_ stepped reaches)
                    rw [Flags.skip_plain plain]
                    exact read
                  · exact fun escapes => stays (.next read stepped escapes)

end Follows

end Treegram.Pattern
