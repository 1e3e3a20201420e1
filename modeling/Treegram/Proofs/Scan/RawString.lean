import Treegram.Proofs.Scan.Cursor
import Treegram.Scan.RawString

/-!
Raw strings are recognized exactly. A text is read in three calls, the scanner perhaps saved
and restored between them; all three succeed just when a raw string stands at the front, and
the three tokens are then its opening, its content and its closing.
-/

namespace Treegram

namespace RawString

def opening (hashes : Nat) : List Char := 'r' :: (List.replicate hashes '#' ++ ['"'])

def closing (hashes : Nat) : List Char := '"' :: List.replicate hashes '#'

/-! ## Number signs -/

theorem countHashes_sign {cursor : Cursor} {more : List Char} (found : cursor.ahead = '#' :: more)
    (count : Nat) :
    countHashes count cursor =
      if count = 255 then (none, cursor.past ['#'] more)
      else countHashes (count + 1) (cursor.past ['#'] more) := by
  rw [countHashes]
  split
  · rw [Cursor.advance_past found]
  · next other => exact absurd found (other _)

theorem countHashes_stop {cursor : Cursor} (stop : cursor.lookahead ≠ some '#') (count : Nat) :
    countHashes count cursor = (some count, cursor) := by
  rw [countHashes]
  split
  · next found => exact absurd (by rw [Cursor.lookahead, found]; rfl) stop
  · rfl

theorem countHashes_all {signs count : Nat} {more : List Char} {cursor : Cursor}
    (ahead : cursor.ahead = List.replicate signs '#' ++ more) (stop : more.head? ≠ some '#')
    (room : count + signs ≤ 255) :
    countHashes count cursor =
      (some (count + signs), cursor.past (List.replicate signs '#') more) := by
  induction signs generalizing count cursor with
  | zero =>
      -- No sign is left: either the limit is reached, or the next character is no sign.
      have same : cursor.past [] more = cursor := by
        rw [List.replicate_zero, List.nil_append] at ahead
        simp [Cursor.past, ← ahead]
      rw [List.replicate_zero, same]
      apply countHashes_stop
      rw [← same]
      exact stop
  | succ signs ih =>
      rw [countHashes_sign ahead, if_neg (by omega), ih rfl (by omega), Cursor.past_past,
        Nat.add_assoc, Nat.add_comm 1]
      rfl

theorem countHashes_counted {count signs : Nat} {cursor after : Cursor}
    (counted : countHashes count cursor = (some signs, after)) (room : count ≤ 255) :
    signs ≤ 255 ∧ count ≤ signs ∧
      cursor.ahead = List.replicate (signs - count) '#' ++ after.ahead := by
  fun_induction countHashes count cursor with
  | case1 => cases counted
  | case2 count cursor more found full ih =>
      obtain ⟨small, larger, ahead⟩ := ih counted (by omega)
      refine ⟨small, by omega, ?_⟩
      have step : signs - count = (signs - (count + 1)) + 1 := by omega
      rw [Cursor.advance_past found] at ahead
      rw [found, step, List.replicate_succ, List.cons_append]
      exact congrArg _ ahead
  | case3 count cursor =>
      cases counted
      exact ⟨room, Nat.le_refl _, by simp⟩

theorem takeHashes_all {limit signs count : Nat} {more : List Char} {cursor : Cursor}
    (ahead : cursor.ahead = List.replicate signs '#' ++ more) (within : signs ≤ limit)
    (stop : signs = limit ∨ more.head? ≠ some '#') :
    takeHashes limit count cursor =
      (count + signs, cursor.past (List.replicate signs '#') more) := by
  -- Along the signs. If there are fewer of them than are wanted, another character stops the count.
  induction signs generalizing limit count cursor with
  | zero =>
      have same : cursor.past [] more = cursor := by
        rw [List.replicate_zero, List.nil_append] at ahead
        simp [Cursor.past, ← ahead]
      rw [List.replicate_zero, same, Nat.add_zero]
      cases limit with
      | zero => rfl
      | succ limit =>
          have other := stop.resolve_left (by omega)
          rw [takeHashes, if_neg]
          rw [← same]
          exact other
  | succ signs ih =>
      obtain ⟨limit, rfl⟩ : ∃ less, limit = less + 1 := ⟨limit - 1, by omega⟩
      have read : cursor.ahead = '#' :: (List.replicate signs '#' ++ more) := ahead
      have sign : cursor.lookahead = some '#' := by rw [Cursor.lookahead, read]; rfl
      rw [takeHashes, if_pos sign, Cursor.advance_past read,
        ih rfl (Nat.le_of_succ_le_succ within) (stop.imp_left Nat.succ.inj), Cursor.past_past,
        Nat.add_assoc, Nat.add_comm 1]
      rfl

theorem leading_signs (text : List Char) :
    ∃ signs more, text = List.replicate signs '#' ++ more ∧ more.head? ≠ some '#' := by
  induction text with
  | nil => exact ⟨0, [], rfl, nofun⟩
  | cons c text ih =>
      by_cases sign : c = '#'
      · obtain ⟨signs, more, rfl, stop⟩ := ih
        exact ⟨signs + 1, more, by rw [sign]; rfl, stop⟩
      · exact ⟨0, c :: text, rfl, fun head => sign (Option.some.inj head)⟩

/-! ## Openings -/

theorem scanOpening_found {signs : Nat} (few : signs ≤ 255) {rest : List Char} {cursor : Cursor}
    (ahead : cursor.ahead = opening signs ++ rest) (state : RawString) :
    scanOpening state cursor =
      (true, ⟨signs.toUInt8⟩, (cursor.past (opening signs) rest).setResult openingToken) := by
  have letter : cursor.lookahead = some 'r' := by rw [Cursor.lookahead, ahead]; rfl
  have read : cursor.ahead = 'r' :: (List.replicate signs '#' ++ '"' :: rest) := by
    rw [ahead, opening, List.cons_append, List.append_assoc]
    rfl
  have counted := @countHashes_all signs 0 ('"' :: rest)
    (cursor.past ['r'] (List.replicate signs '#' ++ '"' :: rest)) rfl (by simp) (by omega)
  rw [scanOpening, if_pos letter, Cursor.advance_past read, counted]
  dsimp only
  rw [if_pos (by rfl), Cursor.past_past, Cursor.advance_past rfl, Cursor.past_past, Nat.zero_add]
  simp [opening]

theorem scanOpening_shape {state : RawString} {cursor : Cursor}
    (found : (scanOpening state cursor).1 = true) :
    ∃ signs rest, signs ≤ 255 ∧ cursor.ahead = opening signs ++ rest := by
  rw [scanOpening] at found
  split at found
  case isFalse => cases found
  case isTrue letter =>
    obtain ⟨more, ahead⟩ := List.head?_eq_some_iff.mp letter
    rw [Cursor.advance_past ahead] at found
    split at found
    case h_1 => cases found
    case h_2 signs after counted =>
      obtain ⟨few, _, signsAhead⟩ := countHashes_counted counted (by decide)
      split at found
      case isFalse => cases found
      case isTrue quote =>
        obtain ⟨rest, behind⟩ := List.head?_eq_some_iff.mp quote
        refine ⟨signs, rest, few, ?_⟩
        have inside : more = List.replicate signs '#' ++ after.ahead := signsAhead
        rw [ahead, inside, behind, opening, List.cons_append, List.append_assoc]
        rfl

/-! ## Contents -/

theorem closing_front {hashes signs : Nat} (enough : hashes ≤ signs) (rest : List Char) :
    closing hashes <+: '"' :: (List.replicate signs '#' ++ rest) := by
  refine ⟨List.replicate (signs - hashes) '#' ++ rest, ?_⟩
  have all : List.replicate hashes '#' ++ List.replicate (signs - hashes) '#' =
      List.replicate signs '#' := by
    rw [List.replicate_append_replicate, Nat.add_sub_cancel' enough]
  rw [closing, List.cons_append, ← List.append_assoc, all]

theorem scanContent_plain {cursor : Cursor} {c : Char} {more : List Char}
    (ahead : cursor.ahead = c :: more) (plain : c ≠ '"') (hashes : Nat) :
    scanContent hashes cursor = scanContent hashes (cursor.past [c] more) := by
  rw [scanContent]
  split
  · next none => rw [ahead] at none; cases none
  · next other _ found =>
      rw [ahead] at found
      cases found
      rw [if_neg plain, Cursor.advance_past ahead]

theorem scanContent_quote {cursor : Cursor} {signs : Nat} {more : List Char}
    (ahead : cursor.ahead = '"' :: (List.replicate signs '#' ++ more)) {hashes : Nat}
    (within : signs ≤ hashes) (stop : signs = hashes ∨ more.head? ≠ some '#') :
    scanContent hashes cursor =
      let after := cursor.markEnd.past ('"' :: List.replicate signs '#') more
      if signs = hashes then (true, after.setResult contentToken) else scanContent hashes after := by
  have taken := @takeHashes_all hashes signs 0 more
    (cursor.markEnd.past ['"'] (List.replicate signs '#' ++ more)) rfl within stop
  rw [scanContent]
  split
  · next none => rw [ahead] at none; cases none
  · next other _ found =>
      rw [ahead] at found
      cases found
      have marked : cursor.markEnd.ahead = '"' :: (List.replicate signs '#' ++ more) := ahead
      rw [if_pos rfl, Cursor.advance_past marked, taken, Cursor.past_past, Nat.zero_add]
      rfl

/-- The content ends at the first quote that enough number signs follow. Quotes that fewer follow
leave marks behind, which the last one replaces. -/
theorem scanContent_found {hashes : Nat} {content rest : List Char}
    (free : ¬ closing hashes <:+: content) {cursor : Cursor}
    (ahead : cursor.ahead = content ++ (closing hashes ++ rest)) :
    scanContent hashes cursor =
      (true, ((cursor.past content (closing hashes ++ rest)).markEnd.past (closing hashes)
        rest).setResult contentToken) := by
  match content with
  | [] =>
      rw [scanContent_quote ahead (Nat.le_refl hashes) (Or.inl rfl)]
      simp only [if_true]
      simp [Cursor.past, Cursor.markEnd, Cursor.place, closing]
  | c :: content =>
      by_cases quote : c = '"'
      · subst quote
        obtain ⟨signs, inner, rfl, stop⟩ := leading_signs content
        -- As many signs as the opening has would close the content here, which it is free of.
        have fewer : signs < hashes :=
          Nat.lt_of_not_le fun many => free (closing_front many inner).isInfix
        have apart : (inner ++ (closing hashes ++ rest)).head? ≠ some '#' := by
          cases inner with
          | nil => exact fun same => absurd (Option.some.inj same) (by decide)
          | cons => exact stop
        have shape : cursor.ahead =
            '"' :: (List.replicate signs '#' ++ (inner ++ (closing hashes ++ rest))) := by
          rw [ahead, List.cons_append, List.append_assoc]
        have free' : ¬ closing hashes <:+: inner := fun inside =>
          free (inside.trans ⟨'"' :: List.replicate signs '#', [], by simp⟩)
        rw [scanContent_quote shape (Nat.le_of_lt fewer) (Or.inr apart)]
        simp only [if_neg (Nat.ne_of_lt fewer)]
        rw [scanContent_found free' rfl]
        simp [Cursor.past, Cursor.markEnd, Cursor.place, Cursor.setResult]
      · have free' : ¬ closing hashes <:+: content := fun inside =>
          free (inside.trans ⟨[c], [], by simp⟩)
        rw [scanContent_plain ahead quote, scanContent_found free' rfl, Cursor.past_past]
        rfl
termination_by content.length

theorem scanContent_occurs {hashes : Nat} {cursor : Cursor}
    (found : (scanContent hashes cursor).1 = true) : closing hashes <:+: cursor.ahead := by
  cases ahead : cursor.ahead with
  | nil =>
      rw [scanContent] at found
      split at found
      · cases found
      · next other => rw [ahead] at other; cases other
  | cons c more =>
      by_cases quote : c = '"'
      · subst quote
        obtain ⟨signs, inner, rfl, stop⟩ := leading_signs more
        -- Either this quote closes the content, or the scan goes on behind its signs.
        by_cases enough : hashes ≤ signs
        · exact (closing_front enough inner).isInfix
        · rw [scanContent_quote ahead (by omega) (Or.inr stop)] at found
          simp only [if_neg (show signs ≠ hashes by omega)] at found
          have later : closing hashes <:+: inner := scanContent_occurs found
          exact later.trans ⟨'"' :: List.replicate signs '#', [], by simp⟩
      · rw [scanContent_plain ahead quote] at found
        have later : closing hashes <:+: more := scanContent_occurs found
        exact later.trans ⟨[c], [], by simp⟩
termination_by cursor.ahead.length
decreasing_by all_goals simp [Cursor.past, ahead]; try omega

/-! ## Closings -/

theorem scanClosing_found {hashes : Nat} {rest : List Char} {cursor : Cursor}
    (ahead : cursor.ahead = closing hashes ++ rest) :
    scanClosing hashes cursor = (cursor.past (closing hashes) rest).setResult closingToken := by
  have length : (closing hashes).length = hashes + 1 := by simp [closing]
  have enough : hashes + 1 ≤ cursor.ahead.length := by
    rw [ahead, List.length_append, length]
    omega
  rw [scanClosing, Cursor.advances enough, ahead, ← length, List.take_left, List.drop_left]

/-! ## Literals -/

/-- What is told of a recognized token, and what follows once the cursor has gone back to its
end. -/
structure Piece where
  text : List Char
  token : Option Nat
  remaining : List Char
  deriving DecidableEq

/-- Asks for one token alone. -/
def only (token : Nat) : List Bool := (List.range 3).map (· == token)

def scanPiece? (token : Nat) (state : RawString) (cursor : Cursor) :
    Option (Piece × RawString × Cursor) :=
  match scan (only token) state cursor with
  | (true, state, cursor) =>
      some (⟨cursor.tokenText, cursor.result, cursor.resetToken.remaining⟩, state, cursor.resetToken)
  | (false, _, _) => none

/-- What becomes of the scanner between two calls. -/
inductive Handover where
  | kept
  /-- Written into a buffer that has room, and made anew from what was written. -/
  | restored (size : Nat) (room : 0 < size)

def Handover.pass (state : RawString) : Handover → RawString
  | kept => state
  | restored size _ => deserialize (serialize size state)

theorem pass_eq (state : RawString) (handover : Handover) : handover.pass state = state := by
  cases handover with
  | kept => rfl
  | restored size room => rw [Handover.pass, serialize, if_neg (Nat.ne_of_gt room), deserialize]

/-- The opening, the content and the closing, asked for one after the other. -/
def pieces? (first second : Handover) (text : List Char) : Option (List Piece) := do
  let (opening, state, cursor) ← scanPiece? openingToken {} (.ofText text)
  let (content, state, cursor) ← scanPiece? contentToken (first.pass state) cursor
  let (closing, _, _) ← scanPiece? closingToken (second.pass state) cursor
  return [opening, content, closing]

/-- A raw string at the front of a text. -/
structure IsLiteral (text : List Char) (hashes : Nat) (content rest : List Char) : Prop where
  few : hashes ≤ 255
  text : text = opening hashes ++ (content ++ (closing hashes ++ rest))
  free : ¬ closing hashes <:+: content

theorem scanPiece_found {token : Nat} {state next : RawString} {cursor after : Cursor}
    (scanned : scan (only token) state cursor = (true, next, after))
    {behind word rest : List Char} (holds : after.Holds behind word rest) :
    scanPiece? token state cursor =
      some (⟨word, after.result, rest⟩, next, .fresh (word.reverse ++ behind) rest) := by
  rw [scanPiece?, scanned]
  dsimp only
  rw [holds.tokenText, holds.resetToken, Cursor.fresh_remaining]

theorem scan_opening (state : RawString) (cursor : Cursor) :
    scan (only openingToken) state cursor = scanOpening state cursor := by
  by_cases letter : cursor.lookahead = some 'r'
  · rw [scan, if_pos ⟨rfl, letter⟩]
  · rw [scan, if_neg (fun both => letter both.2), scanOpening, if_neg letter]
    rfl

theorem scan_content (state : RawString) (cursor : Cursor) :
    scan (only contentToken) state cursor =
      ((scanContent state.hashes.toNat cursor).1, state,
        (scanContent state.hashes.toNat cursor).2) := rfl

theorem scan_closing {cursor : Cursor} (quote : cursor.lookahead = some '"') (state : RawString) :
    scan (only closingToken) state cursor =
      (true, state, scanClosing state.hashes.toNat cursor) := by
  rw [scan, if_neg (fun both => Bool.false_ne_true both.1),
    if_neg (show ¬ isValid (only closingToken) contentToken = true from Bool.false_ne_true),
    if_pos ⟨rfl, quote⟩]

theorem opening_piece {hashes : Nat} (few : hashes ≤ 255) (rest : List Char) :
    scanPiece? openingToken {} (.ofText (opening hashes ++ rest)) =
      some (⟨opening hashes, some openingToken, rest⟩, ⟨hashes.toUInt8⟩,
        .fresh (opening hashes).reverse rest) := by
  have ahead : (Cursor.ofText (opening hashes ++ rest)).ahead = opening hashes ++ rest := rfl
  have scanned := scanOpening_found few ahead {}
  rw [← scan_opening] at scanned
  have found := scanPiece_found scanned (Cursor.Holds.read [] (opening hashes) rest _ openingToken)
  rw [List.append_nil] at found
  exact found

theorem content_piece {state : RawString} {hashes : Nat} (counted : state.hashes.toNat = hashes)
    {content : List Char} (free : ¬ closing hashes <:+: content) (behind rest : List Char) :
    scanPiece? contentToken state (.fresh behind (content ++ (closing hashes ++ rest))) =
      some (⟨content, some contentToken, closing hashes ++ rest⟩, state,
        .fresh (content.reverse ++ behind) (closing hashes ++ rest)) := by
  have ahead : (Cursor.fresh behind (content ++ (closing hashes ++ rest))).ahead =
      content ++ (closing hashes ++ rest) := rfl
  have scanned := scan_content state (.fresh behind (content ++ (closing hashes ++ rest)))
  rw [counted, scanContent_found free ahead] at scanned
  exact scanPiece_found scanned
    (Cursor.Holds.marked behind content (closing hashes) rest _ contentToken)

theorem closing_piece {state : RawString} {hashes : Nat} (counted : state.hashes.toNat = hashes)
    (behind rest : List Char) :
    scanPiece? closingToken state (.fresh behind (closing hashes ++ rest)) =
      some (⟨closing hashes, some closingToken, rest⟩, state,
        .fresh ((closing hashes).reverse ++ behind) rest) := by
  have ahead : (Cursor.fresh behind (closing hashes ++ rest)).ahead = closing hashes ++ rest := rfl
  have quote : (Cursor.fresh behind (closing hashes ++ rest)).lookahead = some '"' := rfl
  have scanned := scan_closing quote state
  rw [counted, scanClosing_found ahead] at scanned
  exact scanPiece_found scanned (Cursor.Holds.read behind (closing hashes) rest _ closingToken)

theorem counted_byte {hashes : Nat} (few : hashes ≤ 255) : hashes.toUInt8.toNat = hashes :=
  UInt8.toNat_ofNat_of_lt' (Nat.lt_succ_of_le few)

theorem pieces_literal (first second : Handover) {text : List Char} {hashes : Nat}
    {content rest : List Char} (literal : IsLiteral text hashes content rest) :
    pieces? first second text =
      some [⟨opening hashes, some openingToken, content ++ (closing hashes ++ rest)⟩,
        ⟨content, some contentToken, closing hashes ++ rest⟩,
        ⟨closing hashes, some closingToken, rest⟩] := by
  have counted : (RawString.mk hashes.toUInt8).hashes.toNat = hashes := counted_byte literal.few
  rw [pieces?, literal.text, opening_piece literal.few]
  simp only [Option.bind_eq_bind, Option.bind_some, pass_eq]
  rw [content_piece counted literal.free]
  simp only [Option.bind_some]
  rw [closing_piece counted]
  rfl

/-- A word that occurs has a first occurrence. -/
theorem first_occurrence {word text : List Char} (some : word ≠ []) (before rest : List Char)
    (occurs : text = before ++ (word ++ rest)) :
    ∃ before rest, text = before ++ (word ++ rest) ∧ ¬ word <:+: before := by
  by_cases earlier : word <:+: before
  · obtain ⟨front, back, same⟩ := earlier
    have shorter : front.length < before.length := by
      have length := List.length_pos_iff.mpr some
      rw [← same]
      simp only [List.length_append]
      omega
    exact first_occurrence some front (back ++ (word ++ rest)) (by rw [occurs, ← same]; simp)
  · exact ⟨before, rest, occurs, earlier⟩
termination_by before.length

theorem scan_of_piece {token : Nat} {state : RawString} {cursor : Cursor}
    {found : Piece × RawString × Cursor} (piece : scanPiece? token state cursor = some found) :
    (scan (only token) state cursor).1 = true := by
  rw [scanPiece?] at piece
  split at piece
  · next scanned => rw [scanned]
  · cases piece

/-- The first two calls settle it: behind an opening, the content ends just where a closing
begins. -/
theorem literal_of_pieces {first second : Handover} {text : List Char} {pieces : List Piece}
    (found : pieces? first second text = some pieces) :
    ∃ hashes content rest, IsLiteral text hashes content rest := by
  simp only [pieces?, Option.bind_eq_bind, Option.bind_eq_some_iff] at found
  obtain ⟨⟨_, state, cursor⟩, opened, _, read, _⟩ := found
  have begins := scan_of_piece opened
  rw [scan_opening] at begins
  obtain ⟨hashes, more, few, shape⟩ := scanOpening_shape begins
  have text' : text = opening hashes ++ more := shape
  rw [text', opening_piece few] at opened
  cases opened
  have ends := scan_of_piece read
  rw [pass_eq, scan_content, counted_byte few] at ends
  obtain ⟨before, behind, same⟩ := scanContent_occurs ends
  have occurs : more = before ++ (closing hashes ++ behind) := by
    rw [← List.append_assoc]
    exact same.symm
  have some : closing hashes ≠ [] := List.cons_ne_nil _ _
  obtain ⟨content, rest, split, free⟩ := first_occurrence some before behind occurs
  exact ⟨hashes, content, rest, few, by rw [text', split], free⟩

theorem literal_unique {text : List Char} {hashes hashes' : Nat}
    {content content' rest rest' : List Char} (one : IsLiteral text hashes content rest)
    (other : IsLiteral text hashes' content' rest') :
    hashes = hashes' ∧ content = content' ∧ rest = rest' := by
  have same := (pieces_literal .kept .kept one).symm.trans (pieces_literal .kept .kept other)
  simp only [Option.some.injEq, List.cons.injEq, Piece.mk.injEq, and_true, true_and] at same
  obtain ⟨⟨openings, _⟩, ⟨contents, _⟩, _, rests⟩ := same
  have lengths := congrArg List.length openings
  simp only [opening, List.length_cons, List.length_append, List.length_replicate] at lengths
  exact ⟨by omega, contents, rests⟩

/-- However the scanner is handed over, the three calls succeed just on raw strings of at most 255
number signs, whose parts are unique and are the three tokens, with what follows left over. -/
theorem pieces_exact (first second : Handover) (text : List Char) :
    ((pieces? first second text).isSome ↔
      ∃ hashes content rest, IsLiteral text hashes content rest) ∧
    ∀ hashes content rest, IsLiteral text hashes content rest →
      (∀ hashes' content' rest', IsLiteral text hashes' content' rest' →
        hashes' = hashes ∧ content' = content ∧ rest' = rest) ∧
      pieces? first second text =
        some [⟨opening hashes, some 0, content ++ (closing hashes ++ rest)⟩,
          ⟨content, some 1, closing hashes ++ rest⟩, ⟨closing hashes, some 2, rest⟩] := by
  refine ⟨⟨?_, ?_⟩, ?_⟩
  · intro found
    obtain ⟨pieces, found⟩ := Option.isSome_iff_exists.mp found
    exact literal_of_pieces found
  · rintro ⟨hashes, content, rest, literal⟩
    rw [pieces_literal first second literal]
    rfl
  · intro hashes content rest literal
    exact ⟨fun _ _ _ other => literal_unique other literal, pieces_literal first second literal⟩

/-- A quote that too few number signs follow stays in the content. -/
theorem pieces_inner_quote :
    IsLiteral "r##\"é\"#\"##!".toList 2 "é\"#".toList ['!'] ∧
      pieces? .kept (.restored 1 (by decide)) "r##\"é\"#\"##!".toList =
        some [⟨"r##\"".toList, some 0, "é\"#\"##!".toList⟩, ⟨"é\"#".toList, some 1, "\"##!".toList⟩,
          ⟨"\"##".toList, some 2, ['!']⟩] := by
  have literal : IsLiteral "r##\"é\"#\"##!".toList 2 "é\"#".toList ['!'] :=
    ⟨by decide, by decide, by decide⟩
  exact ⟨literal, ((pieces_exact .kept (.restored 1 (by decide)) _).2 _ _ _ literal).2⟩

end RawString

end Treegram
