import Treegram.Proofs.Pattern.Lexemes
import Treegram.Proofs.Pattern.Meaning

/-!
Patterns inside of groups. A pattern that can be read on its own is read in a group just as well,
with the pieces it has on its own, unless it names a group with a name that is taken.
-/

namespace Treegram.Pattern

/-- One lexeme after the other is read, so many of them and never in verbose mode. -/
inductive Reads : Nat → Parse → List Char → Parse → List Char → Prop where
  | done {parse : Parse} (plain : parse.group.flags.verbose = false) (text : List Char) :
      Reads 0 parse text parse text
  | next {count : Nat} {parse between last : Parse} {lexeme : Lexeme} {text behind rest : List Char}
      (plain : parse.group.flags.verbose = false)
      (read : Lexeme.read? parse.group.flags text = some (lexeme, behind))
      (stepped : parse.step? lexeme = some between) (reads : Reads count between behind last rest) :
      Reads (count + 1) parse text last rest

/-- Reading on never comes to an end. -/
def Fails (parse : Parse) (text : List Char) : Prop := ∀ turns, parse.run? turns text = none

section Run
variable {parse between : Parse} {lexeme : Lexeme} {text behind : List Char}

theorem run_next (plain : parse.group.flags.verbose = false)
    (read : Lexeme.read? parse.group.flags text = some (lexeme, behind)) (turns : Nat) :
    parse.run? (turns + 1) text = (parse.step? lexeme).bind fun next => next.run? turns behind := by
  rw [Parse.run?, Flags.skip_plain plain]
  cases text with
  | nil => cases read
  | cons c rest =>
      simp only [read]
      rfl

theorem Fails.next (plain : parse.group.flags.verbose = false)
    (read : Lexeme.read? parse.group.flags text = some (lexeme, behind))
    (stepped : parse.step? lexeme = some between) (fails : Fails between behind) :
    Fails parse text := by
  intro turns
  cases turns with
  | zero => rfl
  | succ turns =>
      rw [run_next plain read, stepped]
      exact fails turns

theorem Fails.stuck (plain : parse.group.flags.verbose = false)
    (read : Lexeme.read? parse.group.flags text = some (lexeme, behind))
    (stuck : parse.step? lexeme = none) : Fails parse text := by
  intro turns
  cases turns with
  | zero => rfl
  | succ turns =>
      rw [run_next plain read, stuck]
      rfl

end Run

namespace Reads

variable {count more : Nat} {start between last : Parse} {text behind rest : List Char}

theorem one {parse next : Parse} {lexeme : Lexeme} {text rest : List Char}
    (plain : parse.group.flags.verbose = false)
    (read : Lexeme.read? parse.group.flags text = some (lexeme, rest))
    (stepped : parse.step? lexeme = some next) (plain' : next.group.flags.verbose = false) :
    Reads 1 parse text next rest :=
  .next plain read stepped (.done plain' rest)

theorem trans (reads : Reads count start text between behind)
    (further : Reads more between behind last rest) : Reads (count + more) start text last rest := by
  induction reads with
  | done => rwa [Nat.zero_add]
  | next plain read stepped _ ih =>
      rw [Nat.add_right_comm]
      exact .next plain read stepped (ih further)

theorem fails (reads : Reads count start text between behind) (fails : Fails between behind) :
    Fails start text := by
  induction reads with
  | done => exact fails
  | next plain read stepped _ ih => exact (ih fails).next plain read stepped

theorem run_eq (reads : Reads count start text last rest) (turns : Nat) :
    start.run? (count + turns) text = last.run? turns rest := by
  induction reads with
  | done => rw [Nat.zero_add]
  | next plain read stepped _ ih =>
      rw [Nat.add_right_comm, run_next plain read, stepped]
      exact ih

/-- Everything is read if there are more turns than lexemes. -/
theorem run (reads : Reads count start text last []) {turns : Nat} (enough : count < turns) :
    start.run? turns text = some last := by
  obtain ⟨left, rfl⟩ : ∃ left, turns = count + (left + 1) := ⟨turns - count - 1, by omega⟩
  rw [reads.run_eq, Parse.run?]
  have nothing : last.group.flags.skip [] = [] := by
    rw [Flags.skip]
    split <;> rfl
  rw [nothing]

theorem plain (reads : Reads count start text last rest) : last.group.flags.verbose = false := by
  induction reads with
  | done plain => exact plain
  | next _ _ _ _ ih => exact ih

end Reads

/-- Reads a pattern under flags that hold from its beginning. -/
def Piece.readWith? (flags : Flags) (source : List Char) : Option Piece :=
  (Parse.run? (source.length + 1) { group := { flags } } source).bind Parse.finish?

/-- The states that reading a text goes through. -/
inductive Reaches : Parse → List Char → Parse → Prop where
  | here (parse : Parse) (text : List Char) : Reaches parse text parse
  | next {parse between last : Parse} {lexeme : Lexeme} {text behind : List Char}
      (read : Lexeme.read? parse.group.flags (parse.group.flags.skip text) = some (lexeme, behind))
      (stepped : parse.step? lexeme = some between) (reaches : Reaches between behind last) :
      Reaches parse text last

/-- A text that is one lexeme is read in one step. -/
theorem Reaches.of_one {parse last : Parse} {lexeme : Lexeme} {text : List Char}
    (reaches : Reaches parse text last)
    (one : Lexeme.read? parse.group.flags (parse.group.flags.skip text) = some (lexeme, [])) :
    last = parse ∨ parse.step? lexeme = some last := by
  cases reaches with
  | here => exact .inl rfl
  | next read stepped further =>
      obtain ⟨rfl, rfl⟩ := Prod.mk.inj (Option.some.inj (one.symm.trans read))
      cases further with
      | here => exact .inr stepped
      | next nothing => cases (Flags.skip_nil _ ▸ nothing)

/-- A pattern that is read on its own, is never in verbose mode, and does not look around. -/
structure IsPlain (flags : Flags) (source : List Char) : Prop where
  reads : ∃ piece, Piece.readWith? flags source = some piece ∧ piece.expr.asserts = false
  quiet : ∀ parse, Reaches { group := { flags } } source parse → parse.group.flags.verbose = false

/-- A reading that comes to an end and is never verbose goes lexeme by lexeme. -/
theorem reads_of_run {turns : Nat} {start last : Parse} {text : List Char}
    (quiet : ∀ parse, Reaches start text parse → parse.group.flags.verbose = false)
    (done : start.run? turns text = some last) :
    ∃ count, count < turns ∧ Reads count start text last [] := by
  induction turns generalizing start text with
  | zero => cases done
  | succ turns ih =>
      have plain := quiet start (.here start text)
      rw [Parse.run?, Flags.skip_plain plain] at done
      cases text with
      | nil =>
          obtain rfl := Option.some.inj done
          exact ⟨0, Nat.succ_pos turns, .done plain []⟩
      | cons c rest =>
          obtain ⟨⟨lexeme, behind⟩, read, done⟩ := Option.bind_eq_some_iff.mp done
          obtain ⟨between, stepped, done⟩ := Option.bind_eq_some_iff.mp done
          have reached (parse : Parse) (reaches : Reaches between behind parse) :
              Reaches start (c :: rest) parse := by
            refine .next ?_ stepped reaches
            rw [Flags.skip_plain plain]
            exact read
          obtain ⟨count, fewer, reads⟩ := ih (fun parse reaches => quiet parse (reached parse reaches)) done
          exact ⟨count + 1, Nat.succ_lt_succ fewer, .next plain read stepped reads⟩

theorem finish_eq_some {parse : Parse} {piece : Piece} :
    parse.finish? = some piece ↔ parse.outer = [] ∧ parse.group.content = piece := by
  rw [Parse.finish?]
  cases parse.outer with
  | nil => simp
  | cons group outer => simp

/-- A piece does the work of another one: it matches the same and is repeated the same. -/
structure Piece.Like (own inner : Piece) : Prop where
  widthless : inner.expr.isWidthless = own.expr.isWidthless
  term : inner.expr.term = own.expr.term
  isFlags : inner.isFlags = own.isFlags
  honest : inner.expr.IsHonest

structure Group.Like (own inner : Group) : Prop where
  flags : inner.flags = own.flags
  alternatives : List.Forall₂ Piece.Like own.alternatives inner.alternatives
  pieces : List.Forall₂ Piece.Like own.pieces inner.pieces

section Like

theorem like_all {own inner : List Piece} (like : List.Forall₂ Piece.Like own inner) :
    inner.map (·.expr.isWidthless) = own.map (·.expr.isWidthless)
      ∧ inner.map (·.expr.term) = own.map (·.expr.term)
      ∧ ∀ expr ∈ inner.map (·.expr), expr.IsHonest := by
  induction like with
  | nil => exact ⟨rfl, rfl, nofun⟩
  | cons first _ ih =>
      obtain ⟨widthless, terms, honest⟩ := ih
      refine ⟨?_, ?_, ?_⟩
      · rw [List.map_cons, List.map_cons, first.widthless, widthless]
      · rw [List.map_cons, List.map_cons, first.term, terms]
      · rw [List.map_cons, List.forall_mem_cons]
        exact ⟨first.honest, honest⟩

/-- Pieces that do the same work do so in a sequence and as alternatives. -/
theorem like_joined {own inner : List Piece} (like : List.Forall₂ Piece.Like own inner)
    (make : List Expr → Expr) (asBool : (List Bool → Bool)) (asTerm : List Term → Term)
    (widthless : ∀ parts, (make parts).isWidthless = asBool (parts.map Expr.isWidthless))
    (term : ∀ parts, (make parts).term = asTerm (parts.map Expr.term))
    (honest : ∀ parts : List Expr, (∀ part ∈ parts, part.IsHonest) → (make parts).IsHonest)
    (depth depth' : Nat) :
    Piece.Like { expr := make (own.reverse.map (·.expr)), depth }
      { expr := make (inner.reverse.map (·.expr)), depth := depth' } := by
  obtain ⟨sameWidthless, sameTerms, allHonest⟩ := like_all like
  constructor
  · simp only [widthless, List.map_reverse, List.map_map]
    exact congrArg (fun all => asBool all.reverse) sameWidthless
  · simp only [term, List.map_reverse, List.map_map]
    exact congrArg (fun all => asTerm all.reverse) sameTerms
  · rfl
  · refine honest _ fun part found => allHonest part ?_
    rw [List.map_reverse] at found
    exact List.mem_reverse.mp found

theorem isWidthless_sequence (parts : List Expr) :
    (Expr.sequence parts).isWidthless = (parts.map Expr.isWidthless).all id := by
  rw [Expr.isWidthless, Expr.areWidthless_eq, List.all_map]
  rfl

theorem isWidthless_choice (alternatives : List Expr) :
    (Expr.choice alternatives).isWidthless = (alternatives.map Expr.isWidthless).all id := by
  rw [Expr.isWidthless, Expr.areWidthless_eq, List.all_map]
  rfl

theorem term_sequence (parts : List Expr) :
    (Expr.sequence parts).term = .sequence (parts.map Expr.term) := by
  rw [Expr.term, Expr.terms_eq, List.reverse_nil, List.nil_append]

theorem term_choice (alternatives : List Expr) :
    (Expr.choice alternatives).term = .choice (alternatives.map Expr.term) := by
  rw [Expr.term, Expr.terms_eq, List.reverse_nil, List.nil_append]

theorem joinPieces_like {own inner : List Piece} (like : List.Forall₂ Piece.Like own inner) :
    Piece.Like (joinPieces own) (joinPieces inner) := by
  have joined := like_joined like .sequence (·.all id) .sequence isWidthless_sequence term_sequence
    fun _ => Expr.honest_sequence
  cases like with
  | nil => exact ⟨rfl, rfl, rfl, Expr.honest_nothing⟩
  | cons first rest =>
      cases rest with
      | nil => exact first
      | cons => exact joined _ _

theorem content_like {own inner : Group} (like : Group.Like own inner) :
    Piece.Like own.content inner.content := by
  have last := joinPieces_like like.pieces
  have alternatives := like.alternatives
  rw [Group.content, Group.content]
  revert alternatives
  cases own.alternatives with
  | nil =>
      intro alternatives
      rw [List.forall₂_nil_left_iff.mp alternatives]
      exact last
  | cons first others =>
      intro alternatives
      obtain ⟨first', others', firstLike, othersLike, shape⟩ := List.forall₂_cons_left_iff.mp alternatives
      rw [shape]
      exact like_joined (.cons last (.cons firstLike othersLike)) .choice (·.all id) .choice
        isWidthless_choice term_choice (fun _ => Expr.honest_choice) _ _

/-- The number of a group makes no difference to what it matches. -/
theorem close_widthless (group : Group) :
    group.close.expr.isWidthless = group.content.expr.isWidthless := by
  rw [Group.close]
  cases group.number <;> rfl

theorem close_term (group : Group) : group.close.expr.term = group.content.expr.term := by
  rw [Group.close]
  cases group.number <;> rfl

theorem close_honest {group : Group} (honest : group.content.expr.IsHonest) :
    group.close.expr.IsHonest := by
  intro widthless plain
  rw [close_widthless] at widthless
  rw [Expr.asserts, close_term] at plain
  rw [Expr.texts, close_term]
  exact honest widthless plain

theorem close_like {own inner : Group} (like : Group.Like own inner) :
    Piece.Like own.close inner.close := by
  have content := content_like like
  refine ⟨?_, ?_, rfl, close_honest content.honest⟩
  · rw [close_widthless, close_widthless, content.widthless]
  · rw [close_term, close_term, content.term]

theorem repeated_like {own inner : Piece} (like : Piece.Like own inner) (low : Nat)
    (high : Option Nat) (depth depth' : Nat) :
    Piece.Like { expr := own.expr.repeated low high, depth }
      { expr := inner.expr.repeated low high, depth := depth' } := by
  have widthless := like.widthless
  have term := like.term
  refine ⟨?_, ?_, rfl, Expr.honest_repeated like.honest low high⟩
  · simp only [Expr.repeated, widthless]
    split
    · rfl
    · split
      · split
        · simp only [Expr.isWidthless, widthless]
        · exact widthless
      · split
        · exact widthless
        · simp only [Expr.isWidthless, widthless]
  · simp only [Expr.repeated, widthless]
    split
    · rfl
    · split
      · split
        · simp only [Expr.term, term]
        · exact term
      · split
        · exact term
        · simp only [Expr.term, term]

end Like

theorem escape_honest {flags : Flags} {escape : Escape} {expr : Expr}
    (made : escape.expr? flags = some expr) : expr.IsHonest := by
  cases escape with
  | char c =>
      rw [← Option.some.inj made]
      exact Expr.honest_chars _
  | byte c =>
      rw [Escape.expr?] at made
      split at made
      · rw [← Option.some.inj made]
        exact Expr.honest_chars _
      · cases made
  | shorthand kind negated =>
      obtain ⟨set, _, rfl⟩ := Option.map_eq_some_iff.mp made
      exact Expr.honest_chars set
  | property named negated =>
      obtain ⟨set, _, rfl⟩ := Option.map_eq_some_iff.mp made
      exact Expr.honest_chars set
  | assertion make =>
      rw [← Option.some.inj made]
      exact Expr.honest_assert _

theorem opening_no_piece {flags : Flags} {text rest : List Char} {lexeme : Lexeme}
    (read : readOpening? flags text = some (lexeme, rest)) (expr : Expr) (depth : Nat) :
    lexeme ≠ .piece expr depth := by
  unfold readOpening? at read
  split at read
  case h_5 | h_6 =>
    obtain ⟨_, _, same⟩ := Option.map_eq_some_iff.mp read
    cases same
    exact nofun
  case h_7 =>
    obtain ⟨inner, _, read⟩ := Option.bind_eq_some_iff.mp read
    split at read
    · cases read
      exact nofun
    · split at read
      · cases read
      · cases read
        exact nofun
    · cases read
  case h_8 =>
    cases read
    exact nofun
  all_goals cases read

/-- A piece that stands for itself is a set or looks around. -/
theorem lexeme_honest {flags : Flags} {text rest : List Char} {expr : Expr} {depth : Nat}
    (read : Lexeme.read? flags text = some (.piece expr depth, rest)) : expr.IsHonest := by
  cases text with
  | nil => cases read
  | cons c text =>
      unfold Lexeme.read? at read
      simp only at read
      split at read
      case h_1 => exact absurd rfl (opening_no_piece read expr depth)
      case h_4 =>
        obtain ⟨_, _, same⟩ := Option.map_eq_some_iff.mp read
        cases same
        exact Expr.honest_chars _
      case h_8 =>
        obtain ⟨_, _, same⟩ := Option.map_eq_some_iff.mp read
        cases same
      case h_9 =>
        obtain ⟨⟨escape, _⟩, _, read⟩ := Option.bind_eq_some_iff.mp read
        obtain ⟨_, made, same⟩ := Option.map_eq_some_iff.mp read
        cases same
        exact escape_honest made
      case h_10 =>
        obtain ⟨_, made, same⟩ := Option.map_eq_some_iff.mp read
        cases same
        rw [anyChar?] at made
        split at made
        · rw [← Option.some.inj made]
          exact Expr.honest_chars _
        · cases made
      case h_11 =>
        cases read
        exact Expr.honest_assert _
      case h_12 =>
        cases read
        exact Expr.honest_assert _
      case h_13 =>
        cases read
        exact Expr.honest_chars _
      all_goals cases read

/-- A pattern is read in a group on top of `base`: the stack of its own groups stands on that of
`base`, and the names it has taken are taken besides those of `base`. -/
structure Embedded (base own inner : Parse) : Prop where
  group : Group.Like own.group inner.group
  outer : ∃ outer, inner.outer = outer ++ base.group :: base.outer
    ∧ List.Forall₂ Group.Like own.outer outer
  names : inner.names = own.names ++ base.names

/-- In a group that has just been opened. -/
def Parse.entered (isCounted : Bool) (name : Option String) (flags : Flags) (base : Parse) : Parse :=
  let counted := if isCounted then base.counted + 1 else base.counted
  { group := { flags, number := if isCounted then some counted else none }
    outer := base.group :: base.outer, names := name.toList ++ base.names, counted }

/-- With a piece that does the work of the last one so many times. -/
def Parse.repeating (low : Nat) (high : Option Nat) (piece : Piece) (before : List Piece)
    (base : Parse) : Parse :=
  let repeated : Piece := { expr := piece.expr.repeated low high, depth := piece.depth + 1 }
  { base with group := { base.group with pieces := repeated :: before } }

section Step
variable {parse after : Parse}

/-! Three kinds of lexemes can be out of place: there must be something to repeat, a name must be new,
and a group must be open. -/

theorem step_times_iff {low : Nat} {high : Option Nat} :
    parse.step? (.times low high) = some after ↔
      ∃ piece before, parse.group.pieces = piece :: before ∧ piece.isFlags = false
        ∧ parse.repeating low high piece before = after := by
  rw [Parse.step?]
  cases parse.group.pieces with
  | nil => simp
  | cons piece before => cases solid : piece.isFlags <;> simp [solid, Parse.repeating]

theorem step_openGroup_iff {isCounted : Bool} {name : Option String} {flags : Flags} :
    parse.step? (.openGroup isCounted name flags) = some after ↔
      name.any parse.names.contains = false ∧ parse.entered isCounted name flags = after := by
  rw [Parse.step?]
  cases free : name.any parse.names.contains <;> simp [Parse.entered]

theorem step_closeGroup_iff :
    parse.step? .closeGroup = some after ↔
      ∃ group outer, parse.outer = group :: outer
        ∧ { parse with group, outer }.add parse.group.close = after := by
  rw [Parse.step?]
  cases parse.outer <;> simp

end Step

/-- The name that a lexeme gives to a group. -/
def Lexeme.groupName? : Lexeme → Option String
  | .openGroup _ name _ => name
  | _ => none

theorem step_names {parse after : Parse} {lexeme : Lexeme} (stepped : parse.step? lexeme = some after) :
    after.names = lexeme.groupName?.toList ++ parse.names
      ∧ lexeme.groupName?.any parse.names.contains = false := by
  cases lexeme with
  | piece expr depth =>
      cases stepped
      exact ⟨rfl, rfl⟩
  | times low high =>
      obtain ⟨_, _, _, _, rfl⟩ := step_times_iff.mp stepped
      exact ⟨rfl, rfl⟩
  | bar =>
      cases stepped
      exact ⟨rfl, rfl⟩
  | openGroup isCounted name flags =>
      obtain ⟨free, rfl⟩ := step_openGroup_iff.mp stepped
      exact ⟨rfl, free⟩
  | setFlags flags =>
      cases stepped
      exact ⟨rfl, rfl⟩
  | closeGroup =>
      obtain ⟨_, _, _, rfl⟩ := step_closeGroup_iff.mp stepped
      exact ⟨rfl, rfl⟩

section Embedded
variable {base own after inner : Parse}

/-- Only the innermost group changes. -/
theorem Embedded.withGroup (embedded : Embedded base own inner) {group group' : Group}
    (like : Group.Like group group') :
    Embedded base { own with group } { inner with group := group' } :=
  ⟨like, embedded.outer, embedded.names⟩

theorem Embedded.times (embedded : Embedded base own inner) {low : Nat} {high : Option Nat}
    (stepped : own.step? (.times low high) = some after) :
    ∃ next, inner.step? (.times low high) = some next ∧ Embedded base after next := by
  have like := embedded.group
  obtain ⟨piece, before, pieces, solid, rfl⟩ := step_times_iff.mp stepped
  obtain ⟨first, others, firstLike, othersLike, innerPieces⟩ :=
    List.forall₂_cons_left_iff.mp (pieces ▸ like.pieces)
  have next : inner.step? (.times low high) = some (inner.repeating low high first others) :=
    step_times_iff.mpr ⟨first, others, innerPieces, firstLike.isFlags.trans solid, rfl⟩
  refine ⟨_, next, embedded.withGroup ⟨like.flags, like.alternatives, ?_⟩⟩
  exact .cons (repeated_like firstLike low high _ _) othersLike

/-- The names that count inside of the group are its own ones and those of `base`. -/
theorem Embedded.taken (embedded : Embedded base own inner) {name : Option String}
    (free : name.any own.names.contains = false) :
    name.any inner.names.contains = name.any base.names.contains := by
  rw [embedded.names]
  cases name with
  | none => rfl
  | some name =>
      have free : name ∉ own.names := by simpa using free
      simp [free]

theorem Embedded.opens (embedded : Embedded base own inner) {isCounted : Bool}
    {name : Option String} {flags : Flags}
    (stepped : own.step? (.openGroup isCounted name flags) = some after) :
    (name.any base.names.contains = false →
        ∃ next, inner.step? (.openGroup isCounted name flags) = some next ∧ Embedded base after next)
      ∧ (name.any base.names.contains = true →
        inner.step? (.openGroup isCounted name flags) = none) := by
  obtain ⟨outer, shape, outerLike⟩ := embedded.outer
  obtain ⟨free, rfl⟩ := step_openGroup_iff.mp stepped
  have taken := embedded.taken free
  constructor
  · intro new
    refine ⟨_, step_openGroup_iff.mpr ⟨taken.trans new, rfl⟩, ⟨rfl, .nil, .nil⟩,
      ⟨inner.group :: outer, ?_, .cons embedded.group outerLike⟩, ?_⟩
    · rw [Parse.entered, shape]
      rfl
    · rw [Parse.entered, Parse.entered, embedded.names, List.append_assoc]
  · intro old
    exact if_pos (taken.trans old)

/-- The parenthesis closes a group of its own, as the groups of `base` stand below all of these. -/
theorem Embedded.closes (embedded : Embedded base own inner)
    (stepped : own.step? .closeGroup = some after) :
    ∃ next, inner.step? .closeGroup = some next ∧ Embedded base after next := by
  obtain ⟨outer, shape, outerLike⟩ := embedded.outer
  obtain ⟨around, further, ownOuter, rfl⟩ := step_closeGroup_iff.mp stepped
  obtain ⟨around', further', aroundLike, furtherLike, rfl⟩ :=
    List.forall₂_cons_left_iff.mp (ownOuter ▸ outerLike)
  have next := step_closeGroup_iff.mpr ⟨around', further' ++ base.group :: base.outer, shape, rfl⟩
  refine ⟨_, next, ?_, ⟨further', rfl, furtherLike⟩, embedded.names⟩
  exact ⟨aroundLike.flags, aroundLike.alternatives,
    .cons (close_like embedded.group) aroundLike.pieces⟩

/-- A step that is possible on its own is possible in the group, unless it takes a name twice. -/
theorem Embedded.step {lexeme : Lexeme} (embedded : Embedded base own inner)
    (honest : ∀ expr depth, lexeme = .piece expr depth → expr.IsHonest)
    (stepped : own.step? lexeme = some after) :
    (lexeme.groupName?.any base.names.contains = false →
        ∃ next, inner.step? lexeme = some next ∧ Embedded base after next)
      ∧ (lexeme.groupName?.any base.names.contains = true → inner.step? lexeme = none) := by
  have like := embedded.group
  cases lexeme with
  | piece expr depth =>
      cases stepped
      refine ⟨fun _ => ⟨_, rfl, embedded.withGroup ⟨like.flags, like.alternatives, ?_⟩⟩, nofun⟩
      exact .cons ⟨rfl, rfl, rfl, honest expr depth rfl⟩ like.pieces
  | times low high => exact ⟨fun _ => embedded.times stepped, nofun⟩
  | bar =>
      cases stepped
      refine ⟨fun _ => ⟨_, rfl, embedded.withGroup ⟨like.flags, ?_, .nil⟩⟩, nofun⟩
      exact .cons (joinPieces_like like.pieces) like.alternatives
  | openGroup isCounted name flags => exact embedded.opens stepped
  | setFlags flags =>
      cases stepped
      refine ⟨fun _ => ⟨_, rfl, embedded.withGroup ⟨rfl, like.alternatives, ?_⟩⟩, nofun⟩
      exact .cons ⟨rfl, rfl, rfl, Expr.honest_nothing⟩ like.pieces
  | closeGroup => exact ⟨fun _ => embedded.closes stepped, nofun⟩

end Embedded

theorem any_contains {name : Option String} {names : List String} :
    name.any names.contains = true ↔ ∃ taken ∈ name.toList, taken ∈ names := by
  cases name with
  | none => simp
  | some name => simp

/-- Names are taken one after the other, and none is taken twice. -/
theorem Reads.names {count : Nat} {start last : Parse} {text rest : List Char}
    (reads : Reads count start text last rest) :
    ∃ taken, last.names = taken ++ start.names ∧ (start.names.Nodup → last.names.Nodup) := by
  induction reads with
  | done => exact ⟨[], rfl, id⟩
  | next plain read stepped further ih =>
      rename_i start between last lexeme text behind rest
      obtain ⟨names, free⟩ := step_names stepped
      obtain ⟨taken, lastNames, distinct⟩ := ih
      refine ⟨taken ++ lexeme.groupName?.toList, ?_, fun startNames => distinct ?_⟩
      · rw [lastNames, names, List.append_assoc]
      · rw [names]
        cases held : lexeme.groupName? with
        | none => exact startNames
        | some name =>
            rw [held] at free
            have free : name ∉ start.names := by simpa using free
            exact List.nodup_cons.mpr ⟨free, startNames⟩

/-- What is read on its own is read in the group, unless a name is taken twice: then reading the group
fails. -/
theorem Embedded.reads {base own last inner : Parse} {count : Nat} {text rest : List Char}
    (embedded : Embedded base own inner) (reads : Reads count own text last rest) (tail : List Char)
    {taken : List String} (names : last.names = taken ++ own.names) :
    ((∀ name ∈ taken, name ∉ base.names) →
        ∃ final, Reads count inner (closed text tail) final (closed rest tail)
          ∧ Embedded base last final)
      ∧ ((∃ name ∈ taken, name ∈ base.names) → Fails inner (closed text tail)) := by
  induction reads generalizing inner taken with
  | done plain text =>
      have plain := embedded.group.flags ▸ plain
      have nothing : taken = [] := List.append_left_eq_self.mp names.symm
      exact ⟨fun _ => ⟨inner, .done plain _, embedded⟩, fun ⟨name, found, _⟩ => by
        rw [nothing] at found
        cases found⟩
  | next plain read stepped further ih =>
      rename_i own between last lexeme text behind rest
      have innerPlain : inner.group.flags.verbose = false := embedded.group.flags ▸ plain
      have innerRead : Lexeme.read? inner.group.flags (closed text tail) =
          some (lexeme, closed behind tail) := by
        rw [embedded.group.flags]
        exact lexeme_local plain text tail _ read
      have honest (expr : Expr) (depth : Nat) (same : lexeme = .piece expr depth) : expr.IsHonest :=
        lexeme_honest (same ▸ read)
      obtain ⟨goes, stuck⟩ := embedded.step honest stepped
      obtain ⟨betweenNames, _⟩ := step_names stepped
      obtain ⟨later, lastNames, _⟩ := further.names
      have parts : taken = later ++ lexeme.groupName?.toList := by
        rw [lastNames, betweenNames, ← List.append_assoc] at names
        exact (List.append_cancel_right names).symm
      -- Either this lexeme takes a name of `base`, or the question is passed on to the rest.
      cases clash : lexeme.groupName?.any base.names.contains with
      | true =>
          have fails := Fails.stuck innerPlain innerRead (stuck clash)
          obtain ⟨name, now, old⟩ := any_contains.mp clash
          refine ⟨fun new => absurd old (new name ?_), fun _ => fails⟩
          rw [parts]
          exact List.mem_append_right _ now
      | false =>
          obtain ⟨next, innerStepped, embedded⟩ := goes clash
          obtain ⟨reads, fails⟩ := ih embedded lastNames
          constructor
          · intro new
            obtain ⟨final, reads, embedded⟩ := reads fun name found =>
              new name (parts ▸ List.mem_append_left _ found)
            exact ⟨final, .next innerPlain innerRead innerStepped reads, embedded⟩
          · rintro ⟨name, found, old⟩
            rw [parts] at found
            rcases List.mem_append.mp found with found | now
            · exact (fails ⟨name, found, old⟩).next innerPlain innerRead innerStepped
            · exact absurd (any_contains.mpr ⟨name, now, old⟩) (Bool.eq_false_iff.mp clash)

/-- The state with some pieces more, and the names that have been taken for them. -/
def Parse.extended (pieces : List Piece) (names : List String) (counted : Nat) (parse : Parse) :
    Parse :=
  { group := { parse.group with pieces := pieces ++ parse.group.pieces }
    outer := parse.outer, names := names ++ parse.names, counted }

/-- The names of the groups in a pattern, in their order. -/
def groupNames (flags : Flags) (source : List Char) : List String :=
  ((Parse.run? (source.length + 1) { group := { flags } } source).elim [] (·.names)).reverse

/-- The texts that a pattern matches as a whole. -/
def patternTexts (flags : Flags) (source : List Char) : TextSet :=
  (Piece.readWith? flags source).elim 0 (·.expr.texts)

/-- A piece that can be repeated, and what it matches. -/
structure Piece.Matches (texts : TextSet) (piece : Piece) : Prop where
  texts : piece.expr.texts = texts
  asserts : piece.expr.asserts = false
  honest : piece.expr.IsHonest
  repeatable : piece.isFlags = false

section Group
variable {flags : Flags} {source : List Char} {base : Parse}

/-- A group that only changes flags has been opened on top of `base`. -/
def Parse.opened (flags : Flags) (base : Parse) : Parse :=
  { base with group := { flags }, outer := base.group :: base.outer }

/-- The reading of a plain pattern on its own. -/
theorem IsPlain.reading (pattern : IsPlain flags source) :
    ∃ count last, count ≤ source.length ∧ Reads count { group := { flags } } source last []
      ∧ last.outer = [] ∧ last.group.content.expr.asserts = false
      ∧ groupNames flags source = last.names.reverse
      ∧ patternTexts flags source = last.group.content.expr.texts := by
  obtain ⟨piece, read, asserts⟩ := pattern.reads
  obtain ⟨last, ran, finished⟩ := Option.bind_eq_some_iff.mp read
  obtain ⟨closed, rfl⟩ := finish_eq_some.mp finished
  obtain ⟨count, fewer, reads⟩ := reads_of_run pattern.quiet ran
  refine ⟨count, last, Nat.le_of_lt_succ fewer, reads, closed, asserts, ?_, ?_⟩
  · rw [groupNames, ran]
    rfl
  · rw [patternTexts, read]
    rfl

theorem IsPlain.names_nodup (pattern : IsPlain flags source) : (groupNames flags source).Nodup := by
  obtain ⟨_, last, _, reads, _, _, names, _⟩ := pattern.reading
  obtain ⟨_, _, distinct⟩ := reads.names
  rw [names, List.nodup_reverse]
  exact distinct List.nodup_nil

theorem embedded_opened (flags : Flags) (base : Parse) :
    Embedded base { group := { flags } } (base.opened flags) :=
  ⟨⟨rfl, .nil, .nil⟩, ⟨[], rfl, .nil⟩, rfl⟩

/-- A plain pattern in a group becomes one piece, if its names are new. -/
theorem group_reads (pattern : IsPlain flags source) (plain : base.group.flags.verbose = false)
    (new : ∀ name ∈ groupNames flags source, name ∉ base.names) (tail : List Char) :
    ∃ count piece counted, count ≤ source.length + 1
      ∧ Reads count (base.opened flags) (closed source tail)
        (base.extended [piece] (groupNames flags source).reverse counted) tail
      ∧ piece.Matches (patternTexts flags source) := by
  obtain ⟨count, last, le, reads, bottom, asserts, names, texts⟩ := pattern.reading
  rw [names] at new
  have lastNames : last.names = last.names ++ [] := (List.append_nil _).symm
  obtain ⟨goes, _⟩ := (embedded_opened flags base).reads reads tail lastNames
  obtain ⟨final, inner, embedded⟩ := goes fun name found => new name (List.mem_reverse.mpr found)
  obtain ⟨like, ⟨outer, shape, outerLike⟩, finalNames⟩ := embedded
  rw [bottom, List.forall₂_nil_left_iff] at outerLike
  rw [outerLike, List.nil_append] at shape
  -- The group stands right on top of `base`, so closing it adds one piece there.
  have closes : final.step? .closeGroup =
      some (base.extended [final.group.close] last.names final.counted) := by
    rw [Parse.step?, shape, Parse.extended, ← finalNames]
    rfl
  have closing : Reads 1 final (closed [] tail)
      (base.extended [final.group.close] last.names final.counted) tail :=
    .one inner.plain rfl closes plain
  refine ⟨count + 1, final.group.close, final.counted, Nat.succ_le_succ le, ?_, ?_⟩
  · rw [names, List.reverse_reverse]
    exact inner.trans closing
  · have content := content_like like
    have closed := close_like like
    refine ⟨?_, ?_, closed.honest, rfl⟩
    · rw [texts, Expr.texts, close_term, content.term]
      rfl
    · rw [Expr.asserts, close_term, content.term]
      exact asserts

/-- A name that is taken already stops the group. -/
theorem group_fails (pattern : IsPlain flags source)
    (old : ∃ name ∈ groupNames flags source, name ∈ base.names) (tail : List Char) :
    Fails (base.opened flags) (closed source tail) := by
  obtain ⟨count, last, _, reads, _, _, names, _⟩ := pattern.reading
  have lastNames : last.names = last.names ++ [] := (List.append_nil _).symm
  obtain ⟨_, fails⟩ := (embedded_opened flags base).reads reads tail lastNames
  obtain ⟨name, found, taken⟩ := old
  rw [names, List.mem_reverse] at found
  exact fails ⟨name, found, taken⟩

end Group

end Treegram.Pattern
