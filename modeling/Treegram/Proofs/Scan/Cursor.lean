import Treegram.Scan.Cursor

/-!
Cursors that read and mark. Reading moves a word from ahead to behind; a token that is
marked anywhere behind its start is told, and gone back to, as the word it is.
-/

namespace Treegram

namespace Cursor

/-- The cursor behind `word`, with `more` still to come. -/
def past (word more : List Char) (cursor : Cursor) : Cursor :=
  { cursor with behind := word.reverse ++ cursor.behind, ahead := more }

theorem past_past (first second more more' : List Char) (cursor : Cursor) :
    (cursor.past first more).past second more' = cursor.past (first ++ second) more' := by
  simp [past]

theorem advance_past {cursor : Cursor} {c : Char} {more : List Char}
    (found : cursor.ahead = c :: more) : cursor.advance false = cursor.past [c] more := by
  simp [advance, found, past]

theorem advances {count : Nat} {cursor : Cursor} (enough : count ≤ cursor.ahead.length) :
    Nat.repeat (advance false) count cursor =
      cursor.past (cursor.ahead.take count) (cursor.ahead.drop count) := by
  induction count with
  | zero => rfl
  | succ count ih =>
      have next : (cursor.past (cursor.ahead.take count) (cursor.ahead.drop count)).ahead =
          cursor.ahead[count] :: cursor.ahead.drop (count + 1) := List.drop_eq_getElem_cons enough
      rw [Nat.repeat, ih (by omega), advance_past next, past_past, List.take_append_getElem]

/-- A cursor in front of a token. -/
def fresh (behind ahead : List Char) : Cursor := { behind, ahead, start := behind.length }

/-- The token of the cursor is `word`, wherever behind it the cursor stands. -/
structure Holds (behind word rest : List Char) (cursor : Cursor) : Prop where
  text : cursor.text = behind.reverse ++ (word ++ rest)
  start : cursor.start = behind.length
  tokenEnd : cursor.tokenEnd = behind.length + word.length
  reached : cursor.tokenEnd ≤ cursor.place

theorem Holds.tokenText {behind word rest : List Char} {cursor : Cursor}
    (holds : cursor.Holds behind word rest) : cursor.tokenText = word := by
  have ends : max cursor.tokenEnd cursor.start = behind.length + word.length := by
    rw [holds.tokenEnd, holds.start]
    omega
  have length : behind.length + word.length = (behind.reverse ++ word).length := by simp
  rw [Cursor.tokenText, ends, holds.start, holds.text, ← List.append_assoc, length, List.take_left,
    ← List.length_reverse, List.drop_left]

theorem Holds.resetToken {behind word rest : List Char} {cursor : Cursor}
    (holds : cursor.Holds behind word rest) :
    cursor.resetToken = fresh (word.reverse ++ behind) rest := by
  have whole := holds.text
  have reached := holds.reached
  have parts : cursor.behind.reverse = (cursor.behind.drop (cursor.place - cursor.tokenEnd)).reverse
      ++ (cursor.behind.take (cursor.place - cursor.tokenEnd)).reverse := by
    rw [← List.reverse_append, List.take_append_drop]
  have length : (cursor.behind.drop (cursor.place - cursor.tokenEnd)).reverse.length =
      (behind.reverse ++ word).length := by
    have ends := holds.tokenEnd
    simp only [List.length_reverse, List.length_drop, List.length_append, Cursor.place] at *
    omega
  rw [Cursor.text, parts, List.append_assoc, ← List.append_assoc behind.reverse] at whole
  obtain ⟨before, after⟩ := List.append_inj whole length
  have kept : cursor.behind.drop (cursor.place - cursor.tokenEnd) = word.reverse ++ behind := by
    rw [← List.reverse_reverse (cursor.behind.drop _), before]
    simp
  rw [Cursor.resetToken, backTo, kept, after, fresh]
  simp only [Cursor.place]

/-- A word that has just been read is the token. -/
theorem Holds.read (behind word rest ahead : List Char) (number : Nat) :
    (((fresh behind ahead).past word rest).setResult number).Holds behind word rest where
  text := by simp [Cursor.text, past, setResult, fresh]
  start := rfl
  tokenEnd := by simp [Cursor.tokenEnd, place, past, setResult, fresh, Nat.add_comm]
  reached := Nat.le_refl _

/-- A word whose end was marked is the token, also when more has been read behind it. -/
theorem Holds.marked (behind word more rest ahead : List Char) (number : Nat) :
    ((((fresh behind ahead).past word (more ++ rest)).markEnd.past more rest).setResult number).Holds
      behind word (more ++ rest) where
  text := by simp [Cursor.text, past, setResult, fresh, markEnd]
  start := rfl
  tokenEnd := by simp [Cursor.tokenEnd, place, past, setResult, fresh, markEnd, Nat.add_comm]
  reached := by simp [Cursor.tokenEnd, place, past, setResult, fresh, markEnd]

theorem fresh_remaining (behind ahead : List Char) : (fresh behind ahead).remaining = ahead := by
  simp [fresh, Cursor.remaining, Cursor.tokenEnd, Cursor.place, Cursor.text]

end Cursor

end Treegram
