import Treegram.Proofs.Scan.RawString

/-!
What a call of the scanner leaves behind. Whatever was done before it, the call reads on over a word
of the text and makes no more moves than the word and the state allow. It finds one of the tokens that
were asked for, and then only an opening changes the state, or none and then tells nothing.
-/

namespace Treegram

namespace Cursor

def moves (cursor : Cursor) (moves : List Move) : Cursor := moves.foldl move cursor

/-- Some moves, `count` at most, read over `word` and leave the result alone. -/
structure Reads (count : Nat) (cursor : Cursor) (word : List Char) (after : Cursor) : Prop where
  moved : ∃ moves : List Move, moves.length ≤ count ∧ after = cursor.moves moves
  ahead : cursor.ahead = word ++ after.ahead
  result : after.result = cursor.result

variable {count more : Nat} {word next : List Char} {cursor between after : Cursor}

theorem moves_append (cursor : Cursor) (first second : List Move) :
    cursor.moves (first ++ second) = (cursor.moves first).moves second :=
  List.foldl_append

theorem Reads.refl (cursor : Cursor) : cursor.Reads 0 [] cursor :=
  ⟨⟨[], Nat.le_refl _, rfl⟩, rfl, rfl⟩

theorem Reads.trans (first : cursor.Reads count word between)
    (second : between.Reads more next after) :
    cursor.Reads (count + more) (word ++ next) after := by
  obtain ⟨⟨made, few, rfl⟩, ahead, result⟩ := first
  obtain ⟨⟨last, few', rfl⟩, ahead', result'⟩ := second
  refine ⟨⟨made ++ last, ?_, (moves_append cursor made last).symm⟩, ?_, result'.trans result⟩
  · rw [List.length_append]
    exact Nat.add_le_add few few'
  · rw [ahead, ahead', List.append_assoc]

theorem Reads.mono (reads : cursor.Reads count word after) (larger : count ≤ more) :
    cursor.Reads more word after := by
  obtain ⟨⟨made, few, same⟩, ahead, result⟩ := reads
  exact ⟨⟨made, Nat.le_trans few larger, same⟩, ahead, result⟩

/-- At the end of the text a further advance reads nothing. -/
theorem reads_advance (cursor : Cursor) :
    cursor.Reads 1 cursor.lookahead.toList (cursor.advance false) := by
  have moved : ∃ moves : List Move, moves.length ≤ 1 ∧ cursor.advance false = cursor.moves moves :=
    ⟨[.advance false], Nat.le_refl _, rfl⟩
  cases found : cursor.ahead with
  | nil => exact ⟨moved, by simp [lookahead, advance, found], by simp [advance, found]⟩
  | cons => exact ⟨moved, by simp [lookahead, advance, found], by simp [advance, found]⟩

theorem reads_char {c : Char} {rest : List Char} (found : cursor.ahead = c :: rest) :
    cursor.Reads 1 [c] (cursor.advance false) := by
  have reads := reads_advance cursor
  rw [lookahead, found] at reads
  exact reads

/-- One character and what is read behind it. -/
theorem Reads.cons {c : Char} {rest : List Char} (found : cursor.ahead = c :: rest)
    (reads : (cursor.advance false).Reads count word after) :
    cursor.Reads (count + 1) (c :: word) after := by
  rw [Nat.add_comm]
  exact (reads_char found).trans reads

theorem reads_repeat (count : Nat) (cursor : Cursor) :
    ∃ word, cursor.Reads count word (Nat.repeat (advance false) count cursor) := by
  induction count with
  | zero => exact ⟨[], .refl cursor⟩
  | succ count ih =>
      obtain ⟨word, reads⟩ := ih
      exact ⟨_, reads.trans (reads_advance _)⟩

theorem reads_mark (cursor : Cursor) : cursor.Reads 1 [] cursor.markEnd :=
  ⟨⟨[.markEnd], Nat.le_refl _, rfl⟩, rfl, rfl⟩

/-- The result can be set behind what is read. -/
theorem Reads.setResult (reads : cursor.Reads count word after) (number : Nat) :
    (∃ moves : List Move, moves.length ≤ count + 1 ∧ after.setResult number = cursor.moves moves)
      ∧ cursor.ahead = word ++ (after.setResult number).ahead := by
  obtain ⟨⟨made, few, rfl⟩, ahead, -⟩ := reads
  refine ⟨⟨made ++ [.setResult number], ?_, ?_⟩, ahead⟩
  · rw [List.length_append]
    exact Nat.add_le_add_right few 1
  · rw [moves_append]
    rfl

end Cursor

namespace RawString
variable {cursor after : Cursor} {state : RawString}

/-! ## The parts of a call -/

theorem countHashes_reads (count : Nat) (cursor : Cursor) :
    ∃ word, cursor.Reads word.length word (countHashes count cursor).2 := by
  fun_induction countHashes count cursor with
  | case1 cursor rest found => exact ⟨['#'], Cursor.reads_char found⟩
  | case2 count cursor rest found _ ih =>
      obtain ⟨word, reads⟩ := ih
      exact ⟨'#' :: word, reads.cons found⟩
  | case3 count cursor => exact ⟨[], Cursor.Reads.refl cursor⟩

theorem takeHashes_reads (limit count : Nat) (cursor : Cursor) :
    ∃ word, cursor.Reads word.length word (takeHashes limit count cursor).2 := by
  induction limit generalizing count cursor with
  | zero => exact ⟨[], Cursor.Reads.refl cursor⟩
  | succ limit ih =>
      rw [takeHashes]
      split
      · next sign =>
          obtain ⟨word, reads⟩ := ih (count + 1) (cursor.advance false)
          obtain ⟨rest, found⟩ := List.head?_eq_some_iff.mp sign
          exact ⟨'#' :: word, reads.cons found⟩
      · exact ⟨[], Cursor.Reads.refl cursor⟩

/-- An opening that is found is counted; without one, the state is the same. -/
theorem scanOpening_reads (state : RawString) (cursor : Cursor) :
    ∃ word after, cursor.Reads word.length word after
      ∧ (scanOpening state cursor = (false, state, after)
        ∨ ∃ signs : Nat, signs ≤ 255 ∧ word = opening signs
          ∧ scanOpening state cursor =
            (true, ⟨signs.toUInt8⟩, after.setResult openingToken)) := by
  rw [scanOpening]
  split
  case isFalse => exact ⟨[], cursor, .refl cursor, .inl rfl⟩
  case isTrue letter =>
    obtain ⟨rest, found⟩ := List.head?_eq_some_iff.mp letter
    obtain ⟨signs, reads⟩ := countHashes_reads 0 (cursor.advance false)
    have both := reads.cons found
    split
    case h_1 counted =>
      rw [counted] at both
      exact ⟨'r' :: signs, _, both, .inl rfl⟩
    case h_2 number behind counted =>
      -- What was counted is known as some word and as so many hash signs, and the two are one text.
      obtain ⟨few, -, ahead⟩ := countHashes_counted counted (Nat.zero_le 255)
      rw [counted] at reads both
      split
      case isFalse => exact ⟨'r' :: signs, _, both, .inl rfl⟩
      case isTrue quote =>
        obtain ⟨rest, found⟩ := List.head?_eq_some_iff.mp quote
        have all := List.append_cancel_right (reads.ahead.symm.trans ahead)
        refine ⟨_, _, ?_, .inr ⟨number, few, rfl, rfl⟩⟩
        have whole := both.trans (Cursor.reads_char found)
        rw [all, Nat.sub_zero] at whole
        simpa [opening] using whole

theorem quote_reads {rest : List Char} (found : cursor.ahead = '"' :: rest) (hashes : Nat) :
    ∃ word, cursor.Reads (2 * word.length) word
      (takeHashes hashes 0 (cursor.markEnd.advance false)).2 := by
  obtain ⟨signs, reads⟩ := takeHashes_reads hashes 0 (cursor.markEnd.advance false)
  have quote : cursor.markEnd.Reads 1 ['"'] (cursor.markEnd.advance false) :=
    Cursor.reads_char found
  refine ⟨_, (((Cursor.reads_mark cursor).trans quote).trans reads).mono ?_⟩
  simp only [List.length_append, List.length_cons, List.length_nil]
  omega

/-- A quote costs one move more than another character, which marks it. -/
theorem scanContent_reads (hashes : Nat) (cursor : Cursor) :
    ∃ word after, cursor.Reads (2 * word.length) word after
      ∧ (scanContent hashes cursor = (false, after)
        ∨ scanContent hashes cursor = (true, after.setResult contentToken)) := by
  fun_induction scanContent hashes cursor with
  | case1 cursor => exact ⟨[], cursor, .refl cursor, .inl rfl⟩
  | case2 cursor rest taken closed found =>
      obtain ⟨word, reads⟩ := quote_reads found hashes
      exact ⟨word, _, reads, .inr rfl⟩
  | case3 cursor rest taken short found ih =>
      obtain ⟨word, reads⟩ := quote_reads found hashes
      obtain ⟨next, after, reads', ends⟩ := ih
      refine ⟨word ++ next, after, (reads.trans reads').mono ?_, ends⟩
      rw [List.length_append]
      omega
  | case4 cursor c rest found plain ih =>
      obtain ⟨next, after, reads, ends⟩ := ih
      refine ⟨c :: next, after, (reads.cons found).mono ?_, ends⟩
      rw [List.length_cons]
      omega

theorem opening_signs (signs : Nat) : (opening signs).count '#' = signs := by
  simp [opening]

theorem isValid_iff {valid : List Bool} {token : Nat} :
    isValid valid token = true ↔ valid[token]? = some true := by
  rw [isValid]
  cases valid[token]? <;> simp

/-- What one call does, whichever mode it runs in. -/
theorem scan_cases (valid : List Bool) (state : RawString) (cursor : Cursor) :
    ∃ word after, cursor.Reads (2 * cursor.ahead.length + state.hashes.toNat + 1) word after
      ∧ (scan valid state cursor = (false, state, after)
        ∨ ∃ token next, scan valid state cursor = (true, next, after.setResult token)
          ∧ token < 3 ∧ valid[token]? = some true
          ∧ (token = openingToken ∧ next.hashes.toNat = word.count '#'
            ∨ token ≠ openingToken ∧ next = state)) := by
  -- The opening and the content read only what is there.
  have room {count : Nat} {word : List Char} {after : Cursor}
      (reads : cursor.Reads count word after) (few : count ≤ 2 * word.length) :
      cursor.Reads (2 * cursor.ahead.length + state.hashes.toNat + 1) word after := by
    refine reads.mono ?_
    rw [reads.ahead, List.length_append]
    omega
  rw [scan]
  split
  case isTrue opens =>
    obtain ⟨word, after, reads, ends⟩ := scanOpening_reads state cursor
    refine ⟨word, after, room reads (by omega), ends.imp_right ?_⟩
    rintro ⟨signs, few, rfl, found⟩
    refine ⟨_, _, found, by decide, isValid_iff.mp opens.1, .inl ⟨rfl, ?_⟩⟩
    rw [opening_signs, counted_byte few]
  case isFalse =>
    split
    case isTrue content =>
      obtain ⟨word, after, reads, ends⟩ := scanContent_reads state.hashes.toNat cursor
      refine ⟨word, after, room reads (Nat.le_refl _), ?_⟩
      rcases ends with ends | ends
      · exact .inl (by rw [ends])
      · exact .inr ⟨_, _, by rw [ends], by decide, isValid_iff.mp content, .inr ⟨by decide, rfl⟩⟩
    case isFalse =>
      split
      case isTrue closes =>
        obtain ⟨word, reads⟩ := Cursor.reads_repeat (state.hashes.toNat + 1) cursor
        exact ⟨word, _, reads.mono (by omega),
          .inr ⟨_, _, rfl, by decide, isValid_iff.mp closes.1, .inr ⟨by decide, rfl⟩⟩⟩
      case isFalse => exact ⟨[], cursor, (Cursor.Reads.refl cursor).mono (by omega), .inl rfl⟩

/-! ## Sessions -/

/-- A scanner at work: its state, its cursor and the bytes it was last written into. -/
structure Session where
  state : RawString := {}
  cursor : Cursor
  saved : List UInt8 := []

namespace Session

/-- What may be done in a session. Any bytes may be loaded, not only saved ones. -/
inductive Step where
  | scan (valid : List Bool)
  | move (move : Cursor.Move)
  | save (size : Nat)
  | load (bytes : List UInt8)

def step (session : Session) : Step → Session
  | .scan valid =>
      let scanned := RawString.scan valid session.state session.cursor
      { session with state := scanned.2.1, cursor := scanned.2.2 }
  | .move move => { session with cursor := session.cursor.move move }
  | .save size => { session with saved := serialize size session.state }
  | .load bytes => { session with state := deserialize bytes }

/-- A session over a text from its beginning on. -/
def run (text : List Char) (steps : List Step) : Session :=
  steps.foldl step { cursor := .ofText text }

end Session

/-- Whatever happened before in a session, a call ends after a number of moves that the text left and
the state bound. What it finds is one of the three tokens that were asked for, and only an opening
changes the state, to the number signs that the call has read. If it finds nothing, state and result
stay as they were. -/
theorem scan_reports (text : List Char) (steps : List Session.Step) (valid : List Bool) :
    let before := Session.run text steps
    let (found, state, cursor) := scan valid before.state before.cursor
    (∃ moves : List Cursor.Move, cursor = before.cursor.moves moves
        ∧ moves.length ≤ 2 * before.cursor.ahead.length + before.state.hashes.toNat + 2)
      ∧ ∃ word, before.cursor.ahead = word ++ cursor.ahead
        ∧ (found = true → ∃ token, cursor.result = some token ∧ token < 3
          ∧ valid[token]? = some true ∧ (state.hashes ≠ before.state.hashes → token = 0)
          ∧ (token = 0 → state.hashes.toNat = word.count '#'))
        ∧ (found = false → state = before.state ∧ cursor.result = before.cursor.result) := by
  intro before
  obtain ⟨word, after, reads, missing | ⟨token, next, found, small, asked, changed⟩⟩ :=
    scan_cases valid before.state before.cursor
  · obtain ⟨moves, few, made⟩ := reads.moved
    rw [missing]
    exact ⟨⟨moves, made, by omega⟩, word, reads.ahead, nofun, fun _ => ⟨rfl, reads.result⟩⟩
  · obtain ⟨⟨moves, few, made⟩, ahead⟩ := reads.setResult token
    rw [found]
    refine ⟨⟨moves, made, few⟩, word, ahead, fun _ => ⟨token, rfl, small, asked, ?_⟩, nofun⟩
    rcases changed with ⟨rfl, counted⟩ | ⟨other, rfl⟩
    · exact ⟨fun _ => rfl, fun _ => counted⟩
    · exact ⟨fun changed => absurd rfl changed, fun opening => absurd opening other⟩

/-- An opening is reported where it is asked for; of the content behind it, which nothing closes, there
is no report. -/
theorem scan_reports_unclosed :
    let text := "r#\"é".toList
    let before := Session.run text [.scan [true], .move .resetToken, .save 1]
    let (opened, _, opening) := scan [true] {} (.ofText text)
    let (found, state, cursor) := scan [false, true, true] before.state before.cursor
    opened = true ∧ (∃ token, opening.result = some token ∧ [true][token]? = some true)
      ∧ before.state.hashes = 1 ∧ found = false ∧ state = before.state ∧ cursor.result = none := by
  intro text before
  have opened : (scan [true] {} (.ofText text)).1 = true := by decide +kernel
  have missing : (scan [false, true, true] before.state before.cursor).1 = false := by decide +kernel
  obtain ⟨_, _, _, found, _⟩ := scan_reports text [] [true]
  obtain ⟨_, _, _, _, none⟩ :=
    scan_reports text [.scan [true], .move .resetToken, .save 1] [false, true, true]
  obtain ⟨token, result, _, asked, _⟩ := found opened
  obtain ⟨same, kept⟩ := none missing
  exact ⟨opened, ⟨token, result, asked⟩, by decide +kernel, missing, same,
    kept.trans (by decide +kernel)⟩

end RawString

end Treegram
