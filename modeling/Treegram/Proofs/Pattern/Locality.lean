import Mathlib.Data.List.TakeWhile
import Treegram.Pattern.Reader

/-!
Readers look no further than they read. What is taken from a text is also taken when a closing
parenthesis stands behind the text, whatever follows it: a pattern inside of a group is cut into
the same lexemes as the pattern on its own. Verbose patterns are left out, because a comment at
their end would swallow the parenthesis.
-/

namespace Treegram.Pattern

variable {α β : Type} {flags : Flags}

theorem Flags.skip_plain (plain : flags.verbose = false) (text : List Char) : flags.skip text = text := by
  rw [Flags.skip, plain]
  rfl

theorem Flags.skip_nil (flags : Flags) : flags.skip [] = [] := ite_self _

/-- A text inside of a group, up to the end of the group and on. -/
def closed (text tail : List Char) : List Char := text ++ ')' :: tail

theorem closed_cons (c : Char) (text tail : List Char) : closed (c :: text) tail = c :: closed text tail :=
  rfl

/-- What has been read on its own has also been read inside, where it is told so. -/
def Keeps (inside : α → α) (own inner : Option α) : Prop :=
  ∀ found, own = some found → inner = some (inside found)

namespace Keeps

variable {inside : α → α} {inside' : β → β} {own inner : Option α}

theorem none : Keeps inside none inner := nofun

theorem some {found : α} (same : inner = some (inside found)) : Keeps inside (some found) inner := by
  rintro _ ⟨⟩
  exact same

theorem bind (keeps : Keeps inside own inner) {next next' : α → Option β}
    (further : ∀ found, Keeps inside' (next found) (next' (inside found))) :
    Keeps inside' (own.bind next) (inner.bind next') := by
  intro last done
  obtain ⟨found, read, done⟩ := Option.bind_eq_some_iff.mp done
  exact Option.bind_eq_some_iff.mpr ⟨inside found, keeps found read, further found last done⟩

theorem map (keeps : Keeps inside own inner) {f f' : α → β}
    (same : ∀ found, inside' (f found) = f' (inside found)) :
    Keeps inside' (own.map f) (inner.map f') := by
  intro last done
  obtain ⟨found, read, rfl⟩ := Option.map_eq_some_iff.mp done
  exact Option.map_eq_some_iff.mpr ⟨inside found, keeps found read, (same found).symm⟩

/-- What goes before is the same on both sides. -/
theorem given {result : Option α} {next next' : α → Option β}
    (each : ∀ found, Keeps inside' (next found) (next' found)) :
    Keeps inside' (result.bind next) (result.bind next') := by
  intro last done
  obtain ⟨found, read, done⟩ := Option.bind_eq_some_iff.mp done
  exact Option.bind_eq_some_iff.mpr ⟨found, read, each found last done⟩

theorem made {result : Option α} {f f' : α → β} (same : ∀ found, inside' (f found) = f' found) :
    Keeps inside' (result.map f) (result.map f') := by
  intro last done
  obtain ⟨found, read, rfl⟩ := Option.map_eq_some_iff.mp done
  exact Option.map_eq_some_iff.mpr ⟨found, read, (same found).symm⟩

end Keeps

/-- What a reader has found, with the end of the group behind the rest. -/
def foundInside (tail : List Char) (found : α × List Char) : α × List Char :=
  (found.1, closed found.2 tail)

/-- The reader takes the same from a text inside of a group. -/
def IsLocal (read : List Char → Option (α × List Char)) : Prop :=
  ∀ text tail, Keeps (foundInside tail) (read text) (read (closed text tail))

/-- A character that is no parenthesis comes from the text itself. -/
theorem closed_eq_cons {c : Char} {text tail behind : List Char} (same : closed text tail = c :: behind)
    (open₁ : c ≠ ')') : ∃ inner, text = c :: inner ∧ behind = closed inner tail := by
  cases text with
  | nil => exact absurd (List.cons.inj same).1.symm open₁
  | cons d inner =>
      obtain ⟨rfl, rfl⟩ := List.cons.inj same
      exact ⟨inner, rfl, rfl⟩

/-- What a text does not begin with, it does not begin with inside of a group. -/
theorem closed_ne_cons {c : Char} {text : List Char} (open₁ : c ≠ ')')
    (other : ∀ rest, text ≠ c :: rest) (tail rest : List Char) : closed text tail ≠ c :: rest := by
  intro shape
  obtain ⟨inner, same, _⟩ := closed_eq_cons shape open₁
  exact other inner same

theorem closed_ne_pair {c d : Char} {text : List Char} (open₁ : c ≠ ')') (open₂ : d ≠ ')')
    (other : ∀ rest, text ≠ c :: d :: rest) (tail rest : List Char) :
    closed text tail ≠ c :: d :: rest := by
  intro shape
  obtain ⟨inner, rfl, behind⟩ := closed_eq_cons shape open₁
  obtain ⟨more, rfl, _⟩ := closed_eq_cons behind.symm open₂
  exact other more rfl

section Escapes

theorem fixedHex_local (plain : flags.verbose = false) (count number : Nat) :
    IsLocal (fixedHex? flags count number) := by
  intro text tail
  induction count generalizing number text with
  | zero => exact .some rfl
  | succ count ih =>
      cases text with
      | nil => exact .none
      | cons c text =>
          rw [closed_cons, fixedHex?, fixedHex?, flags.skip_plain plain, flags.skip_plain plain]
          exact .given fun digit => ih _ text

/-- More turns than a text needs change nothing. -/
theorem bracedHex_more (plain : flags.verbose = false) {turns more : Nat} (le : turns ≤ more)
    (number : Option Nat) (text tail : List Char) :
    Keeps (foundInside tail) (bracedHex? flags turns number text)
      (bracedHex? flags more number (closed text tail)) := by
  -- The induction is on the turns; more of them than the text needs are never used up.
  induction turns generalizing more number text with
  | zero => exact .none
  | succ turns ih =>
      obtain ⟨more, rfl⟩ := Nat.exists_eq_add_of_le' le
      cases text with
      | nil => exact .none
      | cons c text =>
          rw [closed_cons, ← Nat.add_assoc, bracedHex?, bracedHex?, flags.skip_plain plain,
            flags.skip_plain plain]
          split
          · exact .made fun _ => rfl
          · exact .given fun digit => ih (by omega) _ text

theorem untilBrace_more (plain : flags.verbose = false) {turns more : Nat} (le : turns ≤ more)
    (name text tail : List Char) :
    Keeps (foundInside tail) (untilBrace? flags turns name text)
      (untilBrace? flags more name (closed text tail)) := by
  induction turns generalizing more name text with
  | zero => exact .none
  | succ turns ih =>
      obtain ⟨more, rfl⟩ := Nat.exists_eq_add_of_le' le
      cases text with
      | nil => exact .none
      | cons c text =>
          rw [closed_cons, ← Nat.add_assoc, untilBrace?, untilBrace?, flags.skip_plain plain,
            flags.skip_plain plain]
          split
          · exact .some rfl
          · exact ih (by omega) _ text

theorem length_le_closed (text tail : List Char) : text.length ≤ (closed text tail).length := by
  rw [closed, List.length_append]
  exact Nat.le_add_right _ _

theorem turns_le_closed (text tail : List Char) : text.length + 1 ≤ (closed text tail).length + 1 :=
  Nat.succ_le_succ (length_le_closed text tail)

theorem hexEscape_digits (plain : flags.verbose = false) (count : Nat) {text : List Char}
    (noBrace : ∀ rest, text ≠ '\x7b' :: rest) :
    hexEscape? flags count text = (fixedHex? flags count 0 text).bind fun found =>
      (scalar? found.1).map fun c => (if count = 2 then .byte c else .char c, found.2) := by
  rw [hexEscape?, flags.skip_plain plain]
  split
  · exact absurd rfl (noBrace _)
  · rfl

theorem hexEscape_local (plain : flags.verbose = false) (count : Nat) :
    IsLocal (hexEscape? flags count) := by
  intro text tail
  by_cases brace : ∃ inner, text = '\x7b' :: inner
  · obtain ⟨inner, rfl⟩ := brace
    rw [closed_cons, hexEscape?, hexEscape?, flags.skip_plain plain, flags.skip_plain plain]
    simp only [flags.skip_plain plain]
    exact (bracedHex_more plain (turns_le_closed inner tail) _ inner tail).bind
      fun _ => .made fun _ => rfl
  · have noBrace (rest : List Char) : text ≠ '\x7b' :: rest := fun same => brace ⟨rest, same⟩
    rw [hexEscape_digits plain count noBrace,
      hexEscape_digits plain count (closed_ne_cons (by decide) noBrace tail)]
    exact (fixedHex_local plain count 0 text tail).bind fun _ => .made fun _ => rfl

theorem propertyEscape_local (plain : flags.verbose = false) (negated : Bool) :
    IsLocal (propertyEscape? flags negated) := by
  intro text tail
  rw [propertyEscape?, propertyEscape?, flags.skip_plain plain, flags.skip_plain plain]
  cases text with
  | nil => exact .none
  | cons c text =>
      simp only [closed_cons, flags.skip_plain plain]
      split
      · exact (untilBrace_more plain (turns_le_closed text tail) _ text tail).bind
          fun _ => .made fun _ => rfl
      · split
        · exact .none
        · exact .made fun _ => rfl

theorem edgeName_local (plain : flags.verbose = false) : IsLocal (edgeName? flags) := by
  intro text tail
  unfold edgeName?
  split
  · rename_i inner
    rw [closed_cons]
    simp only [flags.skip_plain plain]
    cases inner with
    | nil => exact .none
    | cons c inner =>
        rw [closed_cons]
        simp only
        split
        · exact .some rfl
        · refine (untilBrace_more plain (turns_le_closed (c :: inner) tail) _ _ tail).bind ?_
          rintro ⟨name, rest⟩
          simp only [foundInside]
          split <;> first | exact .some rfl | exact .none
  · rename_i noBrace
    split
    · rename_i behind shape
      exact absurd shape (closed_ne_cons (by decide) noBrace tail behind)
    · exact .some rfl

theorem escape_local (plain : flags.verbose = false) : IsLocal (Escape.read? flags) := by
  intro text tail
  cases text with
  | nil => exact .none
  | cons c text =>
      rw [closed_cons]
      unfold Escape.read?
      simp only
      split
      case h_1 => exact hexEscape_local plain 2 text tail
      case h_2 => exact hexEscape_local plain 4 text tail
      case h_3 => exact hexEscape_local plain 8 text tail
      case h_4 => exact propertyEscape_local plain false text tail
      case h_5 => exact propertyEscape_local plain true text tail
      case h_23 => exact (edgeName_local plain text tail).map fun _ => rfl
      case h_24 =>
        split
        · exact .some rfl
        · exact .none
      all_goals exact .some rfl

end Escapes

section Counts

theorem blank_parenthesis : Unicode.isWhiteSpace (')').toNat = false := by decide

theorem dropWhile_closed {p : Char → Bool} (stops : p ')' = false) (text tail : List Char) :
    (closed text tail).dropWhile p = closed (text.dropWhile p) tail := by
  induction text with
  | nil => exact List.dropWhile_cons_of_neg (by rw [stops]; exact nofun)
  | cons c text ih =>
      rw [closed_cons, List.dropWhile_cons, List.dropWhile_cons]
      split
      · exact ih
      · rfl

/-- All digits of a text are taken, with as many turns as the text is long or with more. -/
theorem takeDigits_closed (plain : flags.verbose = false) {turns more : Nat} {text : List Char}
    (enough : text.length ≤ turns) (le : turns ≤ more) (number : Option Nat) (tail : List Char) :
    takeDigits flags more number (closed text tail) =
      ((takeDigits flags turns number text).1, closed (takeDigits flags turns number text).2 tail) := by
  induction text generalizing turns more number with
  | nil =>
      -- Behind the last digit stands the parenthesis, which is none.
      have left : takeDigits flags turns number [] = (number, []) := by cases turns <;> rfl
      have right : takeDigits flags more number (closed [] tail) = (number, closed [] tail) := by
        cases more <;> rfl
      rw [left, right]
  | cons c text ih =>
      rw [List.length_cons] at enough
      obtain ⟨turns, rfl⟩ : ∃ fewer, turns = fewer + 1 := ⟨turns - 1, by omega⟩
      obtain ⟨more, rfl⟩ : ∃ fewer, more = fewer + 1 := ⟨more - 1, by omega⟩
      rw [closed_cons, takeDigits, takeDigits, flags.skip_plain plain, flags.skip_plain plain]
      split
      · exact ih (by omega) (by omega) _
      · rfl

theorem decimal_local (plain : flags.verbose = false) : IsLocal (decimal? flags) := by
  intro text tail
  have taken := takeDigits_closed plain (Nat.le_refl _)
    (length_le_closed (text.dropWhile fun c => Unicode.isWhiteSpace c.toNat) tail) none tail
  rw [decimal?, decimal?, dropWhile_closed blank_parenthesis]
  simp only [taken]
  refine .given fun number => ?_
  split
  · refine .some ?_
    rw [dropWhile_closed blank_parenthesis]
    rfl
  · exact .none

/-- The counts and what stands behind them. -/
theorem counts_local (plain : flags.verbose = false) (text tail : List Char) :
    Keeps (fun found => (found.1, found.2.1, closed found.2.2 tail)) (counts? flags text)
      (counts? flags (closed text tail)) := by
  rw [counts?, counts?, flags.skip_plain plain, flags.skip_plain plain]
  refine (decimal_local plain text tail).bind ?_
  rintro ⟨low, between⟩
  simp only [foundInside]
  split
  · exact .some rfl
  · rename_i behind
    rw [closed_cons]
    simp only [flags.skip_plain plain]
    -- Behind the comma a brace may end the counts; where the text has none, the parenthesis is none.
    split
    · exact .some rfl
    · rename_i noBrace
      split
      · rename_i inner shape
        exact absurd shape (closed_ne_cons (by decide) noBrace tail inner)
      · refine (decimal_local plain behind tail).bind ?_
        rintro ⟨high, last⟩
        simp only [foundInside]
        split
        · rw [closed_cons]
          simp only
          split
          · exact .some (if_pos ‹_›)
          · exact .none
        · exact .none
  · exact .none

end Counts

/-- What ends within the text ends there as well when the text is closed. -/
theorem takeWhile_closed {p : Char → Bool} {text rest : List Char} {stop : Char} (tail : List Char)
    (stopped : text.drop (text.takeWhile p).length = stop :: rest) :
    (closed text tail).takeWhile p = text.takeWhile p
      ∧ (closed text tail).drop (text.takeWhile p).length = stop :: closed rest tail := by
  induction text with
  | nil => cases stopped
  | cons c text ih =>
      rw [closed_cons, List.takeWhile_cons, List.takeWhile_cons] at *
      split
      · rename_i goes
        rw [if_pos goes, List.length_cons, List.drop_succ_cons] at stopped
        obtain ⟨same, behind⟩ := ih stopped
        exact ⟨congrArg (c :: ·) same, behind⟩
      · rename_i stops
        rw [if_neg stops, List.length_nil, List.drop_zero] at stopped
        obtain ⟨rfl, rfl⟩ := List.cons.inj stopped
        exact ⟨rfl, rfl⟩

end Treegram.Pattern
