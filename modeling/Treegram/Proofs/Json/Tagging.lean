import Mathlib.Data.List.Forall2
import Treegram.Json.Scalar
import Treegram.Proofs.Json.Quoted

/-!
Substitution over written values. What a search does to a text is put together from what
it does to its pieces, so a written tree is rewritten member by member; no text and no key
but `value` itself can be taken for one.
-/

namespace Treegram.Json

/-- What may stand behind a value that has been written: nothing, or a mark between values. -/
def EndsValue (behind : List Char) : Prop :=
  behind = [] ∨ ∃ mark rest, behind = mark :: rest ∧ (mark = ',' ∨ mark = ']' ∨ mark = '\x7d')

theorem ends_mark {mark : Char} (rest : List Char)
    (known : mark = ',' ∨ mark = ']' ∨ mark = '\x7d') : EndsValue (mark :: rest) :=
  Or.inr ⟨mark, rest, rfl, known⟩

namespace Scalar
variable {swap : Swap}

theorem segmentsOnto_eq (swap : Swap) (found : List Segment) (text : List Char) :
    segmentsOnto swap found text = found.reverse ++ segments swap text := by
  -- Along the cases of the scan; what was found before goes through all of them untouched.
  cases text with
  | nil => rw [segments, segmentsOnto, segmentsOnto, List.reverse_nil, List.append_nil]
  | cons c rest =>
      rw [segments, segmentsOnto, segmentsOnto]
      split
      case isFalse =>
        rw [segmentsOnto_eq swap (_ :: found) rest, segmentsOnto_eq swap [_] rest]
        simp
      case isTrue =>
        cases closing? 0 rest with
        | none => simp
        | some count =>
            dsimp only
            split
            case isFalse =>
              rw [segmentsOnto_eq swap (_ :: found), segmentsOnto_eq swap [_]]
              simp
            case isTrue =>
              cases toContent? (rest.drop count) with
              | none =>
                  dsimp only
                  rw [segmentsOnto_eq swap (_ :: found), segmentsOnto_eq swap [_]]
                  simp
              | some gap =>
                  dsimp only
                  cases swap ((rest.drop count).drop gap) with
                  | none =>
                      dsimp only
                      rw [segmentsOnto_eq swap (_ :: found), segmentsOnto_eq swap [_]]
                      simp
                  | some change =>
                      dsimp only
                      rw [segmentsOnto_eq swap (_ :: _ :: found), segmentsOnto_eq swap [_, _]]
                      simp
termination_by text.length
decreasing_by all_goals (simp only [List.length_cons, List.length_drop]; omega)

theorem segments_nil (swap : Swap) : segments swap [] = [] := by
  rw [segments, segmentsOnto]
  rfl

theorem segments_plain {c : Char} (quote : c ≠ '"') (rest : List Char) :
    segments swap (c :: rest) = .kept [c] :: segments swap rest := by
  rw [segments, segmentsOnto, if_neg quote, segmentsOnto_eq]
  rfl

theorem segments_unclosed (swap : Swap) {rest : List Char} (unclosed : closing? 0 rest = none) :
    segments swap ('"' :: rest) = [.kept ('"' :: rest)] := by
  rw [segments, segmentsOnto, if_pos rfl, unclosed]
  rfl

/-- A quoted text stays as it is unless it is the key `value` with a colon behind it. -/
theorem segments_quoted (swap : Swap) {body rest : List Char}
    (closed : closing? 0 (body ++ rest) = some body.length)
    (other : '"' :: body ≠ valueKey ∨ toContent? rest = none) :
    segments swap ('"' :: (body ++ rest)) = .kept ('"' :: body) :: segments swap rest := by
  rw [segments, segmentsOnto, if_pos rfl, closed]
  simp only [List.take_left, List.drop_left]
  split
  case isTrue key =>
    rw [other.resolve_left (not_not_intro key)]
    simp only [segmentsOnto_eq]
    rfl
  case isFalse =>
    rw [segmentsOnto_eq]
    rfl

theorem segments_member (swap : Swap) {gap content : List Char}
    (reached : toContent? (gap ++ content) = some gap.length) :
    segments swap (valueKey ++ (gap ++ content)) =
      .kept (valueKey ++ gap) :: match swap content with
        | none => segments swap content
        | some (size, new) =>
            .replaced (content.take size) new :: segments swap (content.drop size) := by
  have closed : closing? 0 (valueKey.tail ++ (gap ++ content)) = some valueKey.tail.length := rfl
  rw [show valueKey ++ (gap ++ content) = '"' :: (valueKey.tail ++ (gap ++ content)) from rfl,
    segments, segmentsOnto, if_pos rfl, closed]
  simp only [List.take_left, List.drop_left]
  rw [if_pos (show '"' :: valueKey.tail = valueKey from rfl), reached]
  simp only [List.take_left, List.drop_left]
  cases swap content with
  | none =>
      dsimp only
      rw [segmentsOnto_eq]
      rfl
  | some change =>
      dsimp only
      rw [segmentsOnto_eq]
      rfl

theorem substitute_nil (swap : Swap) : substitute swap [] = [] := by
  rw [substitute, segments_nil]
  rfl

theorem substitute_plain {c : Char} (quote : c ≠ '"') (rest : List Char) :
    substitute swap (c :: rest) = c :: substitute swap rest := by
  rw [substitute, segments_plain quote]
  rfl

theorem substitute_text {text : List Char} (plain : ∀ c ∈ text, c ≠ '"') (rest : List Char) :
    substitute swap (text ++ rest) = text ++ substitute swap rest := by
  induction text with
  | nil => rfl
  | cons c text ih =>
      rw [List.cons_append, substitute_plain (plain c List.mem_cons_self),
        ih fun d held => plain d (List.mem_cons_of_mem c held), List.cons_append]

theorem substitute_quoted (swap : Swap) {body rest : List Char}
    (closed : closing? 0 (body ++ rest) = some body.length)
    (other : '"' :: body ≠ valueKey ∨ toContent? rest = none) :
    substitute swap ('"' :: (body ++ rest)) = '"' :: (body ++ substitute swap rest) := by
  rw [substitute, segments_quoted swap closed other]
  rfl

theorem substitute_member (swap : Swap) {gap content : List Char}
    (reached : toContent? (gap ++ content) = some gap.length) :
    substitute swap (valueKey ++ (gap ++ content)) =
      valueKey ++ (gap ++ match swap content with
        | none => substitute swap content
        | some (size, new) => new ++ substitute swap (content.drop size)) := by
  rw [substitute, segments_member swap reached, List.flatMap_cons, Segment.new, List.append_assoc]
  cases swap content <;> rfl

/-! ## Written trees -/

/-- `before` is rewritten to `after`, whatever ends it. -/
def Becomes (swap : Swap) (before after : List Char) : Prop :=
  ∀ rest, EndsValue rest → substitute swap (before ++ rest) = after ++ substitute swap rest

theorem becomes_plain {text : List Char} (plain : ∀ c ∈ text, c ≠ '"') : Becomes swap text text :=
  fun rest _ => substitute_text plain rest

theorem toContent_ends {rest : List Char} (ends : EndsValue rest) : toContent? rest = none := by
  rcases ends with rfl | ⟨mark, rest, rfl, rfl | rfl | rfl⟩ <;> rfl

theorem closing_quoted (content : String) (rest : List Char) :
    closing? 0 (escape content.toList ++ ['"'] ++ rest) =
      some (escape content.toList ++ ['"']).length := by
  rw [List.append_assoc, List.length_append, List.singleton_append, closing_escape, Nat.zero_add]
  rfl

theorem becomes_quoted (content : String) :
    Becomes swap (Value.quoted content) (Value.quoted content) := by
  intro rest ends
  exact substitute_quoted swap (closing_quoted content rest) (Or.inr (toContent_ends ends))

theorem becomes_listed {before after : List (List Char)}
    (elements : List.Forall₂ (Becomes swap) before after) :
    Becomes swap (Value.listed before) (Value.listed after) := by
  cases elements with
  | nil => exact becomes_plain (by simp [Value.listed])
  | @cons first new befores afters head tail =>
      rw [Value.listed_cons, Value.listed_cons]
      -- Each later element stands behind a comma, which ends the one before it.
      have later : ∀ rest, EndsValue rest → EndsValue (befores.flatMap (',' :: ·) ++ rest) ∧
          substitute swap (befores.flatMap (',' :: ·) ++ rest) =
            afters.flatMap (',' :: ·) ++ substitute swap rest := by
        intro rest ends
        clear head
        induction tail with
        | nil => exact ⟨ends, rfl⟩
        | cons one _ ih =>
            refine ⟨ends_mark _ (Or.inl rfl), ?_⟩
            simp only [List.flatMap_cons, List.cons_append, List.append_assoc]
            rw [substitute_plain (by decide), one _ ih.1, ih.2]
      intro rest ends
      rw [List.append_assoc, head _ (later rest ends).1, (later rest ends).2, List.append_assoc]

/-- Brackets around a text are kept. -/
theorem becomes_enclosed {opening closing : Char} {before after : List Char}
    (open' : opening ≠ '"') (close : closing = ']' ∨ closing = '\x7d')
    (inside : Becomes swap before after) :
    Becomes swap (opening :: (before ++ [closing])) (opening :: (after ++ [closing])) := by
  intro rest _
  have quote : closing ≠ '"' := by rcases close with rfl | rfl <;> decide
  have ends : EndsValue (closing :: rest) := ends_mark rest (Or.inr close)
  simp only [List.cons_append, List.append_assoc, List.nil_append]
  rw [substitute_plain open', inside _ ends, substitute_plain quote]

theorem becomes_array {before after : List Value}
    (items : List.Forall₂ (fun a b => Becomes swap a.chars b.chars) before after) :
    Becomes swap (Value.array before).chars (Value.array after).chars := by
  rw [Value.chars_array, Value.chars_array]
  apply becomes_enclosed (by decide) (Or.inl rfl)
  apply becomes_listed
  rw [List.forall₂_map_left_iff, List.forall₂_map_right_iff]
  exact items

/-- A member as it is written. -/
def memberChars (member : String × Value) : List Char :=
  Value.quoted member.1 ++ ':' :: member.2.chars

def MemberBecomes (swap : Swap) (before after : String × Value) : Prop :=
  Becomes swap (memberChars before) (memberChars after)

theorem becomes_object {before after : List (String × Value)}
    (members : List.Forall₂ (MemberBecomes swap) before after) :
    Becomes swap (Value.object before).chars (Value.object after).chars := by
  rw [Value.chars_object, Value.chars_object]
  apply becomes_enclosed (by decide) (Or.inr rfl)
  apply becomes_listed
  rw [List.forall₂_map_left_iff, List.forall₂_map_right_iff]
  exact members

/-! ## Members -/

theorem quoted_value : Value.quoted "value" = valueKey := rfl

theorem quoted_eq_valueKey {key : String} (same : Value.quoted key = valueKey) : key = "value" := by
  rw [← quoted_value] at same
  have inside := List.append_cancel_right (List.cons.inj same).2
  exact String.toList_injective (escape_injective inside)

/-- A content that stays as it is wherever it stands behind the key `value`. -/
def LeftAlone (swap : Swap) (content : List Char) : Prop :=
  ∀ rest, swap (content ++ rest) = none ∧ blanks (content ++ rest) = 0

theorem toContent_colon {content : List Char} (blank : blanks content = 0) :
    toContent? ([':'] ++ content) = some [':'].length := by
  show some (0 + 1 + blanks content) = some 1
  rw [blank]

theorem member_becomes {key : String} {before after : Value}
    (kept : key = "value" → LeftAlone swap before.chars)
    (content : Becomes swap before.chars after.chars) :
    MemberBecomes swap (key, before) (key, after) := by
  intro rest ends
  simp only [memberChars, List.append_assoc, List.cons_append]
  by_cases tagged : key = "value"
  · have alone := kept tagged rest
    subst tagged
    have reached := substitute_member swap (toContent_colon alone.2)
    rw [alone.1] at reached
    simpa [quoted_value, content rest ends] using reached
  · have other : Value.quoted key ≠ valueKey := fun same => tagged (quoted_eq_valueKey same)
    have colon : substitute swap (':' :: (before.chars ++ rest)) =
        ':' :: (after.chars ++ substitute swap rest) := by
      rw [substitute_plain (by decide), content rest ends]
    have read := substitute_quoted swap
      (closing_quoted key (':' :: (before.chars ++ rest))) (Or.inl other)
    rw [colon] at read
    exact read

/-- A scalar under the key `value` is swapped. -/
theorem member_swapped {before after : Value}
    (swaps : ∀ rest, EndsValue rest → blanks (before.chars ++ rest) = 0 ∧
      swap (before.chars ++ rest) = some (before.chars.length, after.chars)) :
    MemberBecomes swap ("value", before) ("value", after) := by
  intro rest ends
  have swapped := swaps rest ends
  have reached := substitute_member swap (toContent_colon swapped.1)
  rw [swapped.2] at reached
  simpa [memberChars, quoted_value] using reached

end Scalar

end Treegram.Json
