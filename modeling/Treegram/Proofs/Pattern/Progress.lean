import Treegram.Proofs.Pattern.Classes

/-!
Readers go forward. None of them leaves more than it was given, and a lexeme takes one character at
least, so the turns of a pattern's reading never run out.
-/

namespace Treegram.Pattern

variable {α β : Type} {flags : Flags}

/-- If there is a result, no more than so much of the text is left behind it. -/
def Leaves (rest : α → List Char) (most : Nat) (result : Option α) : Prop :=
  ∀ found, result = some found → (rest found).length ≤ most

namespace Leaves

variable {rest : α → List Char} {rest' : β → List Char} {most middle : Nat} {result : Option α}

theorem none : Leaves rest most none := nofun

theorem some {found : α} (within : (rest found).length ≤ most) : Leaves rest most (some found) := by
  rintro _ ⟨⟩
  exact within

theorem mono (leaves : Leaves rest middle result) (le : middle ≤ most) : Leaves rest most result :=
  fun found read => Nat.le_trans (leaves found read) le

/-- What is read first leaves so much, and what is read behind it no more of that. -/
theorem bind (leaves : Leaves rest middle result) {next : α → Option β}
    (further : ∀ found, (rest found).length ≤ middle → Leaves rest' most (next found)) :
    Leaves rest' most (result.bind next) := by
  intro last done
  obtain ⟨found, read, done⟩ := Option.bind_eq_some_iff.mp done
  exact further found (leaves found read) last done

theorem map (leaves : Leaves rest middle result) {f : α → β}
    (made : ∀ found, (rest found).length ≤ middle → (rest' (f found)).length ≤ most) :
    Leaves rest' most (result.map f) := by
  intro last done
  obtain ⟨found, read, rfl⟩ := Option.map_eq_some_iff.mp done
  exact made found (leaves found read)

/-- What goes before need not read anything. -/
theorem given {next : α → Option β} (each : ∀ found, Leaves rest' most (next found)) :
    Leaves rest' most (result.bind next) := by
  intro last done
  obtain ⟨found, _, done⟩ := Option.bind_eq_some_iff.mp done
  exact each found last done

theorem made {f : α → β} (each : ∀ found, (rest' (f found)).length ≤ most) :
    Leaves rest' most (result.map f) := by
  intro last done
  obtain ⟨found, _, rfl⟩ := Option.map_eq_some_iff.mp done
  exact each found

end Leaves

/-- The reader leaves no more than it was given. -/
def GoesOn (read : List Char → Option (α × List Char)) : Prop :=
  ∀ text, Leaves (·.2) text.length (read text)

theorem skipBlanks_length (inComment : Bool) (text : List Char) :
    (skipBlanks inComment text).length ≤ text.length := by
  induction text generalizing inComment with
  | nil => exact Nat.le_refl _
  | cons c rest ih =>
      rw [skipBlanks]
      split
      · exact Nat.le_succ_of_le (ih _)
      · split
        · exact Nat.le_succ_of_le (ih _)
        · split
          · exact Nat.le_succ_of_le (ih _)
          · exact Nat.le_refl _

theorem skip_length (flags : Flags) (text : List Char) : (flags.skip text).length ≤ text.length := by
  rw [Flags.skip]
  split
  · exact skipBlanks_length false text
  · exact Nat.le_refl _

/-- A character that is passed over with the blanks behind it is not left. -/
theorem skip_tail (flags : Flags) (c : Char) (text : List Char) :
    (flags.skip text).length ≤ (c :: text).length :=
  Nat.le_succ_of_le (skip_length flags text)

/-- What stands at some place of a text, without the character there, is no longer than the text. -/
theorem drop_length {text rest : List Char} {size : Nat} {c : Char} (left : text.drop size = c :: rest) :
    rest.length ≤ text.length := by
  have inside := congrArg List.length left
  rw [List.length_drop, List.length_cons] at inside
  omega

section Escapes

theorem fixedHex_goesOn (count number : Nat) : GoesOn (fixedHex? flags count number) := by
  intro text
  induction count generalizing number text with
  | zero => exact .some (Nat.le_refl _)
  | succ count ih =>
      cases text with
      | nil => exact .none
      | cons c text =>
          rw [fixedHex?]
          exact .given fun _ => (ih _ _).mono (skip_tail flags c text)

theorem bracedHex_goesOn (turns : Nat) (number : Option Nat) :
    GoesOn (bracedHex? flags turns number) := by
  intro text
  induction turns generalizing number text with
  | zero => exact .none
  | succ turns ih =>
      cases text with
      | nil => exact .none
      | cons c text =>
          rw [bracedHex?]
          split
          · exact .made fun _ => skip_tail flags c text
          · exact .given fun _ => (ih _ _).mono (skip_tail flags c text)

theorem untilBrace_goesOn (turns : Nat) (name : List Char) :
    GoesOn (untilBrace? flags turns name) := by
  intro text
  induction turns generalizing name text with
  | zero => exact .none
  | succ turns ih =>
      cases text with
      | nil => exact .none
      | cons c text =>
          rw [untilBrace?]
          split
          · exact .some (Nat.le_succ _)
          · exact (ih _ _).mono (skip_tail flags c text)

theorem hexEscape_goesOn (count : Nat) : GoesOn (hexEscape? flags count) := by
  intro text
  have skipped := skip_length flags text
  rw [hexEscape?]
  split
  · rename_i inner shape
    rw [shape] at skipped
    have behind := Nat.le_trans (skip_tail flags _ inner) skipped
    exact (bracedHex_goesOn _ _ _).bind fun _ within => .made fun _ => Nat.le_trans within behind
  · exact (fixedHex_goesOn _ _ _).bind fun _ within => .made fun _ => Nat.le_trans within skipped

theorem propertyEscape_goesOn (negated : Bool) : GoesOn (propertyEscape? flags negated) := by
  intro text
  have skipped := skip_length flags text
  rw [propertyEscape?]
  split
  · exact .none
  · rename_i c inner shape
    rw [shape] at skipped
    have behind := Nat.le_trans (skip_tail flags c inner) skipped
    split
    · exact (untilBrace_goesOn _ _ _).bind fun _ within => .made fun _ => Nat.le_trans within behind
    · split
      · exact .none
      · exact .made fun _ => behind

theorem edgeName_goesOn : GoesOn (edgeName? flags) := by
  intro text
  unfold edgeName?
  split
  · rename_i inner
    split
    · exact .none
    · split
      · exact .some (Nat.le_refl _)
      · refine (untilBrace_goesOn _ _ _).bind fun _ within => ?_
        have behind := Nat.le_trans within (skip_tail flags '\x7b' inner)
        dsimp only
        split <;> first | exact .some behind | exact .none
  · exact .some (Nat.le_refl _)

theorem escape_goesOn : GoesOn (Escape.read? flags) := by
  intro text
  cases text with
  | nil => exact .none
  | cons c text =>
      have one : text.length ≤ (c :: text).length := Nat.le_succ _
      unfold Escape.read?
      dsimp only
      split
      case h_1 => exact (hexEscape_goesOn 2 _).mono one
      case h_2 => exact (hexEscape_goesOn 4 _).mono one
      case h_3 => exact (hexEscape_goesOn 8 _).mono one
      case h_4 => exact (propertyEscape_goesOn false _).mono one
      case h_5 => exact (propertyEscape_goesOn true _).mono one
      case h_23 => exact (edgeName_goesOn _).map fun _ within => Nat.le_trans within one
      case h_24 =>
        split
        · exact .some one
        · exact .none
      all_goals exact .some one

end Escapes

section Counts

theorem takeDigits_length (turns : Nat) (number : Option Nat) (text : List Char) :
    (takeDigits flags turns number text).2.length ≤ text.length := by
  induction turns generalizing number text with
  | zero => exact Nat.le_refl _
  | succ turns ih =>
      cases text with
      | nil => exact Nat.le_refl _
      | cons c rest =>
          rw [takeDigits]
          split
          · exact Nat.le_trans (ih _ _) (skip_tail flags c rest)
          · exact Nat.le_refl _

theorem decimal_goesOn : GoesOn (decimal? flags) := by
  intro text
  rw [decimal?]
  refine .given fun number => ?_
  split
  · exact .some (Nat.le_trans (List.dropWhile_suffix _).length_le
      (Nat.le_trans (takeDigits_length _ _ _) (List.dropWhile_suffix _).length_le))
  · exact .none

theorem counts_leaves (text : List Char) : Leaves (·.2.2) text.length (counts? flags text) := by
  have skipped := skip_length flags text
  rw [counts?]
  refine (decimal_goesOn _).bind ?_
  rintro ⟨low, between⟩ inside
  have inside := Nat.le_trans inside skipped
  dsimp only at inside ⊢
  split
  · exact .some (Nat.le_of_succ_le inside)
  · rename_i behind _
    have further := Nat.le_trans (skip_tail flags ',' behind) inside
    split
    · rename_i shape
      rw [shape] at further
      exact .some (Nat.le_of_succ_le further)
    · refine (decimal_goesOn _).bind ?_
      rintro ⟨high, last⟩ more
      have more := Nat.le_trans more further
      dsimp only at more ⊢
      split
      · split
        · exact .some (Nat.le_of_succ_le more)
        · exact .none
      · exact .none
  · exact .none

end Counts

section Groups

theorem groupName_goesOn : GoesOn groupName? := by
  intro text
  rw [groupName?]
  split
  · rename_i left
    split
    · exact .some (drop_length left)
    · exact .none
  · exact .none

theorem opening_goesOn : GoesOn (readOpening? flags) := by
  intro text
  have skipped := skip_length flags text
  unfold readOpening?
  split
  case h_5 inner shape | h_6 inner _ _ shape =>
    refine (groupName_goesOn inner).map ?_
    rintro ⟨name, behind⟩ within
    simp only [shape, List.length_cons] at skipped within ⊢
    omega
  case h_7 inner _ _ _ _ _ _ shape =>
    refine .given fun _ => ?_
    rw [shape] at skipped
    have inside : inner.length ≤ text.length := Nat.le_of_succ_le skipped
    -- The letters end at a colon or at a parenthesis within the text.
    split
    · rename_i left
      exact .some (Nat.le_trans (drop_length left) inside)
    · rename_i left
      split
      · exact .none
      · exact .some (Nat.le_trans (drop_length left) inside)
    · exact .none
  case h_8 => exact .some skipped
  all_goals exact .none

end Groups

section Classes

theorem leadingHyphens_length (turns : Nat) (items : List ClassPiece) (text : List Char) :
    (leadingHyphens flags turns items text).2.length ≤ text.length := by
  induction turns generalizing items text with
  | zero => exact Nat.le_refl _
  | succ turns ih =>
      unfold leadingHyphens
      split
      · rename_i rest shape
        cases shape
        exact Nat.le_trans (ih _ _) (skip_tail flags '-' rest)
      · exact Nat.le_refl _

theorem firstBracket_length (negated : Bool) (found : List ClassPiece × List Char) :
    (firstBracket flags negated found).2.2.length ≤ found.2.length := by
  unfold firstBracket
  split
  · rename_i rest
    exact skip_tail flags ']' rest
  · exact Nat.le_refl _

theorem openBracket_length (flags : Flags) (text : List Char) :
    (openBracket flags text).2.2.length ≤ text.length := by
  have hyphens (negated : Bool) (inner : List Char) :
      (firstBracket flags negated (leadingHyphens flags inner.length [] inner)).2.2.length ≤
        inner.length :=
    Nat.le_trans (firstBracket_length _ _) (leadingHyphens_length _ _ _)
  have skipped := skip_length flags text
  cases caret : (flags.skip text).head? == some '^' with
  | false =>
      have shape : openBracket flags text =
          firstBracket flags false (leadingHyphens flags (flags.skip text).length [] (flags.skip text)) := by
        rw [openBracket, caret]
        rfl
      rw [shape]
      exact Nat.le_trans (hyphens _ _) skipped
  | true =>
      have shape : openBracket flags text =
          firstBracket flags true (leadingHyphens flags
            (flags.skip ((flags.skip text).drop 1)).length [] (flags.skip ((flags.skip text).drop 1))) := by
        rw [openBracket, caret]
        rfl
      have further := skip_length flags ((flags.skip text).drop 1)
      rw [List.length_drop] at further
      rw [shape]
      exact Nat.le_trans (hyphens _ _) (by omega)

theorem classInColons_goesOn : GoesOn classInColons? := by
  intro text
  rw [classInColons?]
  generalize left : text.drop (text.takeWhile (· != ':')).length = behind
  unfold classNamed?
  split
  · exact .made fun _ => Nat.le_of_succ_le (drop_length left)
  · exact .none

theorem namedClass_leaves (text : List Char) : Leaves (·.2.2) text.length (readNamedClass? text) := by
  unfold readNamedClass?
  split
  · rename_i inner
    change Leaves _ _ (readNamedClass? (':' :: inner))
    rw [namedClass_eq]
    split
    · have behind := Nat.le_trans (List.drop_suffix 1 inner).length_le (Nat.le_succ inner.length)
      exact (classInColons_goesOn _).map fun _ within => Nat.le_trans within behind
    · exact (classInColons_goesOn _).map fun _ within => Nat.le_succ_of_le within
  · exact .none

theorem classItem_goesOn : GoesOn (ClassItem.read? flags) := by
  intro text
  unfold ClassItem.read?
  split
  · exact .none
  · exact (escape_goesOn _).bind fun _ within => .made fun _ => Nat.le_succ_of_le within
  · split
    · exact .some (Nat.le_succ _)
    · exact .none

theorem classRange_goesOn : GoesOn (readClassRange? flags) := by
  intro text
  rw [readClassRange?]
  refine (classItem_goesOn _).bind ?_
  rintro ⟨first, between⟩ inside
  have skipped := Nat.le_trans (skip_length flags between) inside
  dsimp only at skipped ⊢
  split
  · rename_i behind shape
    rw [shape] at skipped
    have further := Nat.le_trans (skip_tail flags '-' behind) skipped
    split
    · rw [shape]
      exact .some skipped
    · refine (classItem_goesOn _).bind ?_
      rintro ⟨last, left⟩ more
      dsimp only
      split
      · split
        · exact .some (Nat.le_trans more further)
        · exact .none
      · exact .none
  · exact .some skipped

theorem classFrom_goesOn (turns : Nat) (stack : List OpenClass) (items : List ClassPiece) :
    GoesOn (readClassFrom? flags turns stack items) := by
  intro text
  induction turns generalizing stack items text with
  | zero => exact .none
  | succ turns ih =>
      have skipped := skip_length flags text
      rw [readClassFrom?]
      -- In each case something is taken off the text, and what is read further adds nothing to it.
      split
      case h_1 => exact .none
      case h_2 inner shape =>
        rw [shape] at skipped
        have inside : inner.length ≤ text.length := Nat.le_of_succ_le skipped
        split
        · rename_i negated set between found
          have named := namedClass_leaves inner _ found
          exact .given fun _ => (ih _ _ _).mono (Nat.le_trans named inside)
        · exact (ih _ _ _).mono (Nat.le_trans (openBracket_length flags inner) inside)
      case h_3 inner shape =>
        rw [shape] at skipped
        have inside : inner.length ≤ text.length := Nat.le_of_succ_le skipped
        dsimp only
        split
        · refine .given fun _ => ?_
          split
          · exact .some inside
          · exact (ih _ _ _).mono inside
        · exact .none
      case h_4 inner shape | h_5 inner shape | h_6 inner shape =>
        rw [shape] at skipped
        exact (ih _ _ _).mono (Nat.le_of_succ_le (Nat.le_of_succ_le skipped))
      case h_7 =>
        refine (classRange_goesOn _).bind fun found within => ?_
        exact (ih _ _ _).mono (Nat.le_trans within skipped)

theorem class_goesOn : GoesOn (readClass? flags) := by
  intro text
  rw [readClass?]
  exact (classFrom_goesOn _ _ _ _).mono (openBracket_length flags text)

end Classes

theorem dropLazy_length (text : List Char) : (dropLazy text).length ≤ text.length := by
  unfold dropLazy
  split
  · exact Nat.le_succ _
  · exact Nat.le_refl _

/-- A lexeme takes a character at least. -/
theorem lexeme_shorter {text rest : List Char} {lexeme : Lexeme}
    (done : Lexeme.read? flags text = some (lexeme, rest)) : rest.length < text.length := by
  cases text with
  | nil => cases done
  | cons c text =>
      have leaves : Leaves (·.2) text.length (Lexeme.read? flags (c :: text)) := by
        unfold Lexeme.read?
        dsimp only
        split
        case h_1 => exact opening_goesOn text
        case h_4 => exact (class_goesOn text).map fun _ within => within
        case h_8 =>
          refine (counts_leaves text).map ?_
          rintro ⟨low, high, between⟩ within
          exact Nat.le_trans (dropLazy_length _) (Nat.le_trans (skip_length flags between) within)
        case h_9 => exact (escape_goesOn text).bind fun _ within => .made fun _ => within
        case h_10 => exact .made fun _ => Nat.le_refl _
        all_goals first | exact .some (Nat.le_refl _) | exact .some (dropLazy_length _)
      exact Nat.lt_succ_of_le (leaves _ done)

end Treegram.Pattern
