import Mathlib.Data.List.TakeWhile
import Treegram.Proofs.Json.Tagging

/-!
Segments of any text, whether it is JSON or not. They put the text together without a gap, and what is
replaced is always the content behind a key `value`.
-/

namespace Treegram.Json.Scalar
variable {swap : Swap}

/-- A swap that replaces no more than there is. -/
def Fits (swap : Swap) : Prop :=
  ∀ text size new, swap text = some (size, new) → size ≤ text.length

/-- How a text is cut. A quote that is not closed keeps all that is left, and a key `value` is followed
by a content if there is a colon behind it. -/
inductive Cuts (swap : Swap) : List Char → List Segment → Prop where
  | nil : Cuts swap [] []
  | plain {c : Char} {rest : List Char} {found : List Segment} (other : c ≠ '"')
      (behind : Cuts swap rest found) : Cuts swap (c :: rest) (.kept [c] :: found)
  | unclosed {rest : List Char} (none : closing? 0 rest = none) :
      Cuts swap ('"' :: rest) [.kept ('"' :: rest)]
  | quoted {body rest : List Char} {found : List Segment}
      (closed : closing? 0 (body ++ rest) = some body.length)
      (other : '"' :: body ≠ valueKey ∨ toContent? rest = none) (behind : Cuts swap rest found) :
      Cuts swap ('"' :: (body ++ rest)) (.kept ('"' :: body) :: found)
  | declined {gap content : List Char} {found : List Segment}
      (reached : toContent? (gap ++ content) = some gap.length) (none : swap content = none)
      (behind : Cuts swap content found) :
      Cuts swap (valueKey ++ (gap ++ content)) (.kept (valueKey ++ gap) :: found)
  | swapped {gap old new rest : List Char} {found : List Segment}
      (reached : toContent? (gap ++ (old ++ rest)) = some gap.length)
      (known : swap (old ++ rest) = some (old.length, new)) (behind : Cuts swap rest found) :
      Cuts swap (valueKey ++ (gap ++ (old ++ rest)))
        (.kept (valueKey ++ gap) :: .replaced old new :: found)

theorem closing_bounds {passed size : Nat} {text : List Char}
    (closed : closing? passed text = some size) : passed < size ∧ size ≤ passed + text.length := by
  fun_induction closing? passed text with
  | case1 => cases closed
  | case2 passed rest =>
      obtain rfl := Option.some.inj closed
      simp
  | case3 passed c rest ih =>
      have bounds := ih closed
      simp only [List.length_cons]
      omega
  | case4 => cases closed
  | case5 passed c rest quote slash alone ih =>
      have bounds := ih closed
      simp only [List.length_cons]
      omega

theorem closing_shift (passed : Nat) (text : List Char) :
    closing? passed text = (closing? 0 text).map (passed + ·) := by
  -- The recursion counts on from where it started, so that has to be left open.
  have general (start : Nat) :
      closing? (passed + start) text = (closing? start text).map (passed + ·) := by
    fun_induction closing? start text with
    | case1 => rfl
    | case2 => rfl
    | case3 start c rest ih => exact ih
    | case4 => rfl
    | case5 start c rest quote slash alone ih =>
        rw [closing?.eq_5 _ _ _ quote slash alone]
        exact ih
  exact general 0

theorem isBlank_take {text : List Char} : ∀ c ∈ text.take (blanks text), isBlank c = true := by
  intro c held
  rw [blanks, ← List.prefix_iff_eq_take.mp (List.takeWhile_prefix isBlank)] at held
  exact List.mem_takeWhile_imp held

theorem blanks_le (text : List Char) : blanks text ≤ text.length :=
  (List.takeWhile_prefix isBlank).length_le

/-- Blanks on both sides of a colon. -/
def IsGap (gap : List Char) : Prop :=
  ∃ left right, gap = left ++ ':' :: right
    ∧ (∀ c ∈ left, isBlank c = true) ∧ ∀ c ∈ right, isBlank c = true

theorem toContent_gap {text : List Char} {size : Nat} (reached : toContent? text = some size) :
    ∃ gap content, text = gap ++ content ∧ gap.length = size ∧ IsGap gap := by
  rw [toContent?] at reached
  split at reached
  case h_2 => cases reached
  case h_1 rest left =>
    obtain rfl := Option.some.inj reached
    have parts := List.take_append_drop (blanks text) text
    rw [left, ← List.take_append_drop (blanks rest) rest] at parts
    refine ⟨text.take (blanks text) ++ ':' :: rest.take (blanks rest), rest.drop (blanks rest), ?_, ?_,
      _, _, rfl, isBlank_take, isBlank_take⟩
    · rw [List.append_assoc]
      exact parts.symm
    · rw [List.length_append, List.length_cons, List.length_take_of_le (blanks_le text),
        List.length_take_of_le (blanks_le rest)]
      omega

theorem split_at {text : List Char} {size : Nat} (inside : size ≤ text.length) :
    ∃ front rest, text = front ++ rest ∧ front.length = size :=
  ⟨text.take size, text.drop size, (List.take_append_drop size text).symm,
    List.length_take_of_le inside⟩

/-- The segments of a text are cut that way. -/
theorem cuts_segments (fits : Fits swap) (text : List Char) : Cuts swap text (segments swap text) := by
  -- One segment may take a key, its gap and its content at once, so the induction is on the length.
  induction length : text.length using Nat.strongRecOn generalizing text with
  | ind _ ih =>
      have shorter (front rest : List Char) (parts : text = front ++ rest) (some : front ≠ []) :
          Cuts swap rest (segments swap rest) := by
        refine ih rest.length ?_ rest rfl
        have positive := List.length_pos_iff.mpr some
        rw [← length, parts, List.length_append]
        omega
      cases text with
      | nil =>
          rw [segments_nil]
          exact .nil
      | cons c rest =>
          by_cases quote : c = '"'
          case neg =>
            rw [segments_plain quote]
            exact .plain quote (shorter [c] rest rfl (List.cons_ne_nil c []))
          subst quote
          cases closed : closing? 0 rest with
          | none =>
              rw [segments_unclosed swap closed]
              exact .unclosed closed
          | some count =>
              obtain ⟨body, behind, rfl, rfl⟩ := split_at (show count ≤ rest.length by
                simpa using (closing_bounds closed).2)
              by_cases other : '"' :: body ≠ valueKey ∨ toContent? behind = none
              case pos =>
                rw [segments_quoted swap closed other]
                exact .quoted closed other
                  (shorter ('"' :: body) behind rfl (List.cons_ne_nil '"' body))
              obtain ⟨key, reached⟩ := not_or.mp other
              have key : '"' :: body = valueKey := not_not.mp key
              obtain ⟨_, reached⟩ := Option.ne_none_iff_exists'.mp reached
              obtain ⟨gap, content, rfl, rfl, _⟩ := toContent_gap reached
              have whole : '"' :: (body ++ (gap ++ content)) = valueKey ++ (gap ++ content) := by
                rw [← key, List.cons_append]
              have parts := whole.trans (List.append_assoc _ _ _).symm
              rw [whole, segments_member swap reached]
              cases known : swap content with
              | none =>
                  exact .declined reached known (shorter _ content parts (by simp [valueKey]))
              | some change =>
                  obtain ⟨size, new⟩ := change
                  obtain ⟨old, rest, rfl, rfl⟩ := split_at (fits _ _ _ known)
                  dsimp only
                  rw [List.take_left, List.drop_left]
                  exact .swapped reached known (shorter (valueKey ++ gap ++ old) rest
                    (parts.trans (List.append_assoc _ old rest).symm) (by simp [valueKey]))

/-- Text without a quote is kept. -/
theorem Cuts.past {space rest : List Char} (plain : ∀ c ∈ space, c ≠ '"') {found : List Segment}
    (cuts : Cuts swap (space ++ rest) found) : ∃ others, Cuts swap rest others
      ∧ found.flatMap Segment.new = space ++ others.flatMap Segment.new := by
  induction space generalizing found with
  | nil => exact ⟨found, cuts, rfl⟩
  | cons c space ih =>
      obtain ⟨other, later⟩ := List.forall_mem_cons.mp plain
      generalize whole : c :: space ++ rest = text at cuts
      cases cuts with
      | nil => cases whole
      | plain _ behind =>
          obtain ⟨rfl, rfl⟩ := List.cons.inj whole
          obtain ⟨others, cuts, same⟩ := ih later behind
          exact ⟨others, cuts, congrArg (c :: ·) same⟩
      | unclosed | quoted | declined | swapped => exact absurd (List.cons.inj whole).1 other

theorem Cuts.old {text : List Char} {found : List Segment} (cuts : Cuts swap text found) :
    found.flatMap Segment.old = text := by
  induction cuts with
  | nil => rfl
  | unclosed => simp [Segment.old]
  | plain _ _ ih | quoted _ _ _ ih | declined _ _ _ ih | swapped _ _ _ ih => simp [Segment.old, ih]

/-- What ends with a key `value` and what has to stand between that and its content. -/
def EndsInKey (text : List Char) : Prop :=
  ∃ front gap, text = front ++ (valueKey ++ gap) ∧ IsGap gap

theorem endsInKey_gap {gap content : List Char}
    (reached : toContent? (gap ++ content) = some gap.length) : EndsInKey (valueKey ++ gap) := by
  obtain ⟨other, _, parts, length, known⟩ := toContent_gap reached
  rw [← List.append_inj_left parts length.symm] at known
  exact ⟨[], gap, rfl, known⟩

theorem EndsInKey.append (front : List Char) {text : List Char} (ends : EndsInKey text) :
    EndsInKey (front ++ text) := by
  obtain ⟨before, gap, rfl, known⟩ := ends
  exact ⟨front ++ before, gap, (List.append_assoc _ _ _).symm, known⟩

/-- Each segment that is replaced is what the swap takes of the content behind a key `value`. -/
def Placed (swap : Swap) (found : List Segment) : Prop :=
  ∀ before old new behind, found = before ++ .replaced old new :: behind →
    EndsInKey (before.flatMap Segment.old)
      ∧ swap (old ++ behind.flatMap Segment.old) = some (old.length, new)

theorem Placed.kept {found : List Segment} (placed : Placed swap found) (text : List Char) :
    Placed swap (.kept text :: found) := by
  intro before old new behind parts
  cases before with
  | nil => cases parts
  | cons first others =>
      obtain ⟨ends, known⟩ := placed others old new behind (List.cons.inj parts).2
      exact ⟨ends.append first.old, known⟩

theorem Placed.replaced {found : List Segment} (placed : Placed swap found) {key old new : List Char}
    (ends : EndsInKey key)
    (known : swap (old ++ found.flatMap Segment.old) = some (old.length, new)) :
    Placed swap (.kept key :: .replaced old new :: found) := by
  intro before old' new' behind parts
  -- Of the two new segments the first is kept, and the second is the one that is replaced here.
  match before, parts with
  | [], parts => cases parts
  | [first], parts =>
      cases parts
      exact ⟨by simpa [Segment.old] using ends, known⟩
  | first :: second :: others, parts =>
      have remaining := (List.cons.inj (List.cons.inj parts).2).2
      obtain ⟨ends, known⟩ := placed others old' new' behind remaining
      exact ⟨(ends.append second.old).append first.old, known⟩

theorem Cuts.placed {text : List Char} {found : List Segment} (cuts : Cuts swap text found) :
    Placed swap found := by
  have nil : Placed swap [] := by
    intro before old new behind parts
    simp at parts
  induction cuts with
  | nil => exact nil
  | unclosed => exact nil.kept _
  | plain _ _ ih | quoted _ _ _ ih | declined _ _ _ ih => exact ih.kept _
  | swapped reached known behind ih =>
      exact ih.replaced (endsInKey_gap reached) (by rwa [behind.old])

/-! ## Both swaps -/

theorem quotedLength_le {text : List Char} {size : Nat} (closed : quotedLength? text = some size) :
    size ≤ text.length := by
  unfold quotedLength? at closed
  split at closed
  · have bounds := closing_bounds closed
    rw [List.length_cons]
    omega
  · cases closed

theorem integerLength_le {text : List Char} {size : Nat} (known : integerLength? text = some size) :
    size ≤ text.length := by
  have sign : (if text.head? = some '-' then 1 else 0) ≤ text.length := by
    split
    · obtain ⟨rest, rfl⟩ := List.head?_eq_some_iff.mp ‹_›
      simp
    · exact Nat.zero_le _
  rw [integerLength?] at known
  generalize (if text.head? = some '-' then 1 else 0) = hyphen at known sign
  have digits := (List.takeWhile_prefix (l := text.drop hyphen) Char.isDigit).length_le
  rw [List.length_drop] at digits
  split at known
  · cases known
  · obtain rfl := Option.some.inj known
    omega

theorem fits_wrap : Fits wrap := by
  intro text size new known
  rw [wrap] at known
  split at known
  · rename_i count closed
    obtain ⟨rfl, _⟩ := Prod.mk.inj (Option.some.inj known)
    exact quotedLength_le closed
  · obtain ⟨count, number, same⟩ := Option.map_eq_some_iff.mp known
    obtain ⟨rfl, _⟩ := Prod.mk.inj same
    exact integerLength_le number

theorem fits_unwrap : Fits unwrap := by
  intro text size new known
  unfold unwrap at known
  split at known
  case h_2 => cases known
  case h_1 body =>
    dsimp only at known
    split at known
    case h_1 => cases known
    case h_2 tagLength _ =>
      split at known
      case isFalse => cases known
      case isTrue =>
        split at known
        case h_2 => cases known
        case h_1 afterColon colon =>
          split at known
          case h_1 => cases known
          case h_2 scalarLength _ =>
            split at known
            case h_2 => cases known
            case h_1 rest close =>
              obtain ⟨rfl, _⟩ := Prod.mk.inj (Option.some.inj known)
              have colonAt := congrArg List.length colon
              have closeAt := congrArg List.length close
              simp only [List.length_drop, List.length_cons] at colonAt closeAt ⊢
              omega

end Treegram.Json.Scalar
