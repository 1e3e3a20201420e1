import Treegram.Proofs.Language.Lexing
import Treegram.Proofs.Scan.Scanning

/-!
Cursors by byte offsets. The offsets of a cursor move by themselves, reading the bytes of the text
where they stand; a place outside of the text or inside of a character would have nothing to read. They
never come to one, and what they read is what the cursor tells.
-/

namespace Treegram

/-! ## Slices -/

/-- The part of a text between two byte offsets, if both are in the text, between characters and in
order. -/
def slice? (text : String) (first last : Nat) : Option String :=
  if inside : first ≤ last ∧ String.Pos.Raw.IsValid text ⟨first⟩
      ∧ String.Pos.Raw.IsValid text ⟨last⟩ then
    some (text.extract ⟨⟨first⟩, inside.2.1⟩ ⟨⟨last⟩, inside.2.2⟩)
  else none

theorem byteLength_ofList (text : List Char) :
    (String.ofList text).utf8ByteSize = byteLength text := by
  induction text with
  | nil => rfl
  | cons c rest ih =>
      have front : String.ofList (c :: rest) = String.singleton c ++ String.ofList rest := by
        rw [String.singleton_eq_ofList, ← String.ofList_append]
        rfl
      rw [front, String.utf8ByteSize_append, String.utf8ByteSize_singleton, ih]
      rfl

theorem isValid_front (front rest : List Char) :
    String.Pos.Raw.IsValid (String.ofList (front ++ rest)) ⟨byteLength front⟩ := by
  rw [String.Pos.Raw.isValid_iff_exists_append]
  refine ⟨String.ofList front, String.ofList rest, String.ofList_append, ?_⟩
  rw [String.Pos.Raw.ext_iff, String.byteIdx_rawEndPos, byteLength_ofList]

theorem slice_parts (before word after : List Char) :
    slice? (String.ofList (before ++ (word ++ after))) (byteLength before)
      (byteLength (before ++ word)) = some (String.ofList word) := by
  have first := isValid_front before (word ++ after)
  have last := isValid_front (before ++ word) after
  rw [List.append_assoc] at last
  have ordered : byteLength before ≤ byteLength (before ++ word) :=
    byteLength_prefix (List.prefix_append before word)
  have size (text : List Char) : byteLength text = (String.ofList text).toByteArray.size :=
    (byteLength_ofList text).symm
  rw [slice?, dif_pos ⟨ordered, first, last⟩, Option.some_inj, ← String.toByteArray_inj,
    String.toByteArray_extract]
  dsimp only
  rw [byteLength_append, String.ofList_append, String.ofList_append, String.toByteArray_append,
    String.toByteArray_append]
  have inner := @ByteArray.extract_append_size_add' (String.ofList before).toByteArray
    ((String.ofList word).toByteArray ++ (String.ofList after).toByteArray) 0 (byteLength word)
    (byteLength before) (size before)
  exact inner.trans (ByteArray.extract_append_eq_left (size word))

/-- What lies between two numbers of characters. -/
theorem slice_take (text : List Char) {first last : Nat} (ordered : first ≤ last) :
    slice? (String.ofList text) (byteLength (text.take first)) (byteLength (text.take last)) =
      some (String.ofList ((text.take last).drop first)) := by
  have front : text.take first ++ (text.take last).drop first = text.take last := by
    have parts := List.take_append_drop first (text.take last)
    rw [List.take_take, Nat.min_eq_left ordered] at parts
    exact parts
  have whole : text.take first ++ ((text.take last).drop first ++ text.drop last) = text := by
    rw [← List.append_assoc, front, List.take_append_drop]
  have slice := slice_parts (text.take first) ((text.take last).drop first) (text.drop last)
  rw [front, whole] at slice
  exact slice

theorem slice_drop (text : List Char) (first : Nat) :
    slice? (String.ofList text) (byteLength (text.take first)) (String.ofList text).utf8ByteSize =
      some (String.ofList (text.drop first)) := by
  have slice := slice_parts (text.take first) (text.drop first) []
  rw [List.append_nil, List.take_append_drop] at slice
  rw [byteLength_ofList]
  exact slice

/-! ## Offsets -/

/-- A cursor that keeps byte offsets into its text. -/
structure Offsets where
  text : String
  position : Nat := 0
  start : Nat := 0
  stop : Option Nat := none
  result : Option Nat := none
  deriving DecidableEq

namespace Offsets

def tokenEnd (offsets : Offsets) : Nat := offsets.stop.getD offsets.position

def atEnd (offsets : Offsets) : Bool := decide (offsets.text.utf8ByteSize ≤ offsets.position)

/-- The next character, if the position is one where a text can be read from. -/
def lookahead? (offsets : Offsets) : Option (Option Char) :=
  (slice? offsets.text offsets.position offsets.text.utf8ByteSize).map (·.toList.head?)

def tokenText? (offsets : Offsets) : Option String :=
  slice? offsets.text offsets.start (max offsets.tokenEnd offsets.start)

def remaining? (offsets : Offsets) : Option String :=
  slice? offsets.text offsets.tokenEnd offsets.text.utf8ByteSize

def advance? (skip : Bool) (offsets : Offsets) : Option Offsets := do
  match ← offsets.lookahead? with
  | none => return offsets
  | some c =>
      let position := offsets.position + c.utf8Size
      return { offsets with position, start := if skip then position else offsets.start }

/-- Only an advance reads the text. -/
def move? (offsets : Offsets) : Cursor.Move → Option Offsets
  | .advance skip => offsets.advance? skip
  | .markEnd => some { offsets with stop := some offsets.position }
  | .setResult number => some { offsets with result := some number }
  | .resetToken =>
      some { offsets with position := offsets.tokenEnd, start := offsets.tokenEnd, stop := none, result := none }

def moves? (offsets : Offsets) (moves : List Cursor.Move) : Option Offsets :=
  moves.foldlM move? offsets

/-- All offsets are in the text and between characters, the marks at most at the position. -/
structure Inside (offsets : Offsets) : Prop where
  position : String.Pos.Raw.IsValid offsets.text ⟨offsets.position⟩
  start : String.Pos.Raw.IsValid offsets.text ⟨offsets.start⟩
  stop : ∀ stop ∈ offsets.stop, String.Pos.Raw.IsValid offsets.text ⟨stop⟩
  reached : offsets.position ≤ offsets.text.utf8ByteSize
  begins : offsets.start ≤ offsets.position
  ends : ∀ stop ∈ offsets.stop, stop ≤ offsets.position

end Offsets

namespace Cursor
variable {cursor : Cursor}

/-- The byte offset behind a number of characters. -/
def offset (cursor : Cursor) (count : Nat) : Nat := byteLength (cursor.text.take count)

def offsets (cursor : Cursor) : Offsets where
  text := String.ofList cursor.text
  position := cursor.offset cursor.place
  start := cursor.offset cursor.start
  stop := cursor.stop.map cursor.offset
  result := cursor.result

/-- The marks are at most where the cursor stands. -/
structure Ordered (cursor : Cursor) : Prop where
  start : cursor.start ≤ cursor.place
  stop : ∀ stop ∈ cursor.stop, stop ≤ cursor.place

theorem Ordered.tokenEnd (ordered : cursor.Ordered) : cursor.tokenEnd ≤ cursor.place := by
  rw [Cursor.tokenEnd]
  cases marked : cursor.stop with
  | none => exact Nat.le_refl _
  | some stop => exact ordered.stop stop marked

theorem take_place (cursor : Cursor) : cursor.text.take cursor.place = cursor.behind.reverse := by
  rw [text, place, ← List.length_reverse, List.take_left]

theorem drop_place (cursor : Cursor) : cursor.text.drop cursor.place = cursor.ahead := by
  rw [text, place, ← List.length_reverse, List.drop_left]

theorem offsets_tokenEnd (cursor : Cursor) :
    cursor.offsets.tokenEnd = cursor.offset cursor.tokenEnd := by
  rw [Offsets.tokenEnd, tokenEnd, offsets]
  cases cursor.stop <;> rfl

theorem offset_mono (cursor : Cursor) {first last : Nat} (ordered : first ≤ last) :
    cursor.offset first ≤ cursor.offset last :=
  byteLength_prefix (List.take_prefix_take_left ordered)

theorem offset_lt {first last : Nat} (before : first < last) (inside : last ≤ cursor.text.length) :
    cursor.offset first < cursor.offset last := by
  have next : cursor.text.take (first + 1) = cursor.text.take first ++ [cursor.text[first]] :=
    (List.take_append_getElem (Nat.lt_of_lt_of_le before inside)).symm
  have less := cursor.offset_mono before
  have positive := cursor.text[first].utf8Size_pos
  simp only [offset, next, byteLength_append] at less ⊢
  simp only [byteLength, List.foldr_cons, List.foldr_nil] at less ⊢
  omega

/-! ## What the offsets tell -/

theorem offsets_lookahead (cursor : Cursor) :
    cursor.offsets.lookahead? = some cursor.lookahead := by
  have slice := slice_drop cursor.text cursor.place
  rw [drop_place] at slice
  rw [Offsets.lookahead?]
  exact (congrArg _ slice).trans (by simp [lookahead])

theorem offsets_remaining (cursor : Cursor) :
    cursor.offsets.remaining? = some (String.ofList cursor.remaining) := by
  rw [Offsets.remaining?, offsets_tokenEnd]
  exact slice_drop cursor.text cursor.tokenEnd

theorem offsets_tokenText (cursor : Cursor) :
    cursor.offsets.tokenText? = some (String.ofList cursor.tokenText) := by
  have last : max (cursor.offset cursor.tokenEnd) (cursor.offset cursor.start) =
      cursor.offset (max cursor.tokenEnd cursor.start) := by
    rcases Nat.le_total cursor.tokenEnd cursor.start with less | less
    · rw [Nat.max_eq_right less, Nat.max_eq_right (cursor.offset_mono less)]
    · rw [Nat.max_eq_left less, Nat.max_eq_left (cursor.offset_mono less)]
  rw [Offsets.tokenText?, offsets_tokenEnd]
  exact (congrArg _ last).trans (slice_take cursor.text (Nat.le_max_right _ _))

theorem offsets_atEnd (cursor : Cursor) : cursor.offsets.atEnd = cursor.atEnd := by
  have whole : (String.ofList cursor.text).utf8ByteSize =
      cursor.offset cursor.place + byteLength cursor.ahead := by
    rw [byteLength_ofList, offset, ← byteLength_append, take_place, text]
  rw [Bool.eq_iff_iff, Offsets.atEnd, decide_eq_true_eq, atEnd, List.isEmpty_iff]
  constructor
  · intro reached
    by_contra solid
    have positive := byteLength_pos solid
    exact absurd (whole ▸ reached) (by simp only [offsets]; omega)
  · intro none
    rw [none] at whole
    exact Nat.le_of_eq whole

/-! ## Moves -/

theorem text_advance (skip : Bool) (cursor : Cursor) : (cursor.advance skip).text = cursor.text := by
  cases found : cursor.ahead with
  | nil => simp [advance, found]
  | cons => simp [advance, found, text]

theorem text_resetToken (cursor : Cursor) : cursor.resetToken.text = cursor.text := by
  have parts (count : Nat) : (cursor.behind.drop count).reverse ++ (cursor.behind.take count).reverse =
      cursor.behind.reverse := by
    rw [← List.reverse_append, List.take_append_drop]
  simp only [resetToken, backTo, text]
  rw [← List.append_assoc, parts]

theorem place_resetToken (ordered : cursor.Ordered) :
    cursor.resetToken.place = cursor.tokenEnd := by
  have reached := ordered.tokenEnd
  simp only [resetToken, backTo, place, List.length_drop] at *
  omega

theorem offset_next {c : Char} {rest : List Char} (found : cursor.ahead = c :: rest) :
    cursor.offset (cursor.place + 1) = cursor.offset cursor.place + c.utf8Size := by
  have next : cursor.text.take (cursor.place + 1) = cursor.text.take cursor.place ++ [c] := by
    rw [List.take_add, drop_place, found]
    rfl
  rw [offset, next, byteLength_append]
  rfl

theorem text_move (cursor : Cursor) (move : Move) : (cursor.move move).text = cursor.text := by
  cases move with
  | advance skip => exact text_advance skip cursor
  | markEnd => rfl
  | setResult => rfl
  | resetToken => exact text_resetToken cursor

/-- A move keeps the text, so that its offsets are counted in the same one. -/
theorem offsets_of_text {after : Cursor} (same : after.text = cursor.text) :
    after.offsets = { cursor.offsets with
      position := cursor.offset after.place
      start := cursor.offset after.start
      stop := after.stop.map cursor.offset
      result := after.result } := by
  have offset : after.offset = cursor.offset := by
    funext count
    rw [Cursor.offset, same, Cursor.offset]
  rw [offsets, offset, same, offsets]

theorem offsets_advance (skip : Bool) (cursor : Cursor) :
    cursor.offsets.advance? skip = some (cursor.advance skip).offsets := by
  rw [Offsets.advance?, offsets_lookahead, offsets_of_text (text_advance skip cursor), lookahead,
    advance]
  cases found : cursor.ahead with
  | nil => rfl
  | cons c rest =>
      have next : cursor.offset (cursor.behind.length + 1) = cursor.offset cursor.place + c.utf8Size :=
        offset_next found
      cases skip <;> simp [offsets, place, next]

theorem offsets_move (ordered : cursor.Ordered) (move : Move) :
    cursor.offsets.move? move = some (cursor.move move).offsets := by
  rw [offsets_of_text (text_move cursor move)]
  cases move with
  | advance skip =>
      rw [Offsets.move?, offsets_advance, offsets_of_text (text_advance skip cursor)]
      rfl
  | markEnd => rfl
  | setResult => rfl
  | resetToken =>
      have place : cursor.resetToken.place = cursor.tokenEnd := place_resetToken ordered
      have start : cursor.resetToken.start = cursor.tokenEnd := place
      rw [Offsets.move?, offsets_tokenEnd, Cursor.move, place, start]
      rfl

theorem ofText_text (text : List Char) : (ofText text).text = text := rfl

theorem ordered_ofText (text : List Char) : (ofText text).Ordered :=
  ⟨Nat.le_refl _, nofun⟩

theorem Ordered.advance (ordered : cursor.Ordered) (skip : Bool) : (cursor.advance skip).Ordered := by
  cases found : cursor.ahead with
  | nil =>
      have last : cursor.advance skip = cursor := by simp [Cursor.advance, found]
      rwa [last]
  | cons c rest =>
      have place : (cursor.advance skip).place = cursor.place + 1 := by
        simp [Cursor.advance, found, Cursor.place]
      have stop : (cursor.advance skip).stop = cursor.stop := by simp [Cursor.advance, found]
      constructor
      · rw [place]
        cases skip with
        | false => simpa [Cursor.advance, found] using Nat.le_succ_of_le ordered.start
        | true => simp [Cursor.advance, found, Cursor.place]
      · rw [place, stop]
        exact fun _ marked => Nat.le_succ_of_le (ordered.stop _ marked)

theorem Ordered.move (ordered : cursor.Ordered) (move : Move) : (cursor.move move).Ordered := by
  cases move with
  | advance skip => exact ordered.advance skip
  | markEnd => exact ⟨ordered.start, fun _ marked => Nat.le_of_eq (Option.some.inj marked).symm⟩
  | setResult => exact ⟨ordered.start, ordered.stop⟩
  | resetToken => exact ⟨Nat.le_refl _, nofun⟩

/-- Along any moves the offsets go with the cursor, over the same text. -/
theorem offsets_moves (ordered : cursor.Ordered) (moves : List Move) :
    cursor.offsets.moves? moves = some (cursor.moves moves).offsets
      ∧ (cursor.moves moves).Ordered ∧ (cursor.moves moves).text = cursor.text := by
  induction moves generalizing cursor with
  | nil => exact ⟨rfl, ordered, rfl⟩
  | cons move rest ih =>
      obtain ⟨moved, kept, same⟩ := ih (ordered.move move)
      refine ⟨?_, kept, same.trans (text_move cursor move)⟩
      rw [Offsets.moves?, List.foldlM_cons, offsets_move ordered move]
      exact moved

theorem isValid_offset (cursor : Cursor) (count : Nat) :
    String.Pos.Raw.IsValid cursor.offsets.text ⟨cursor.offset count⟩ := by
  have valid := isValid_front (cursor.text.take count) (cursor.text.drop count)
  rw [List.take_append_drop] at valid
  exact valid

theorem Ordered.inside (ordered : cursor.Ordered) : cursor.offsets.Inside where
  position := cursor.isValid_offset cursor.place
  start := cursor.isValid_offset cursor.start
  stop := by
    intro stop marked
    obtain ⟨count, _, rfl⟩ := Option.mem_map.mp marked
    exact cursor.isValid_offset count
  reached := (cursor.isValid_offset cursor.place).le_utf8ByteSize
  begins := cursor.offset_mono ordered.start
  ends := by
    intro stop marked
    obtain ⟨count, held, rfl⟩ := Option.mem_map.mp marked
    exact cursor.offset_mono (ordered.stop count held)

/-- The front, the token and what remains are the whole text, if the token does not end before it
begins. -/
theorem token_parts (cursor : Cursor) (solid : cursor.start ≤ cursor.tokenEnd) :
    cursor.text.take cursor.start ++ cursor.tokenText ++ cursor.remaining = cursor.text := by
  have front := List.take_append_drop cursor.start (cursor.text.take cursor.tokenEnd)
  rw [List.take_take, Nat.min_eq_left solid] at front
  rw [tokenText, remaining, Nat.max_eq_left solid, front, List.take_append_drop]

theorem Ordered.parts (ordered : cursor.Ordered)
    (solid : cursor.offsets.start ≤ cursor.offsets.tokenEnd) :
    ∃ front token rest, slice? cursor.offsets.text 0 cursor.offsets.start = some front
      ∧ cursor.offsets.tokenText? = some token ∧ cursor.offsets.remaining? = some rest
      ∧ front ++ token ++ rest = cursor.offsets.text := by
  have whole : cursor.text.length = cursor.place + cursor.ahead.length := by simp [text, place]
  have begins : cursor.start ≤ cursor.tokenEnd := by
    by_contra later
    have reached := ordered.start
    have less := cursor.offset_lt (Nat.not_le.mp later) (by omega)
    rw [offsets_tokenEnd] at solid
    exact absurd solid (Nat.not_le.mpr less)
  refine ⟨_, _, _, slice_take cursor.text (Nat.zero_le cursor.start), cursor.offsets_tokenText,
    cursor.offsets_remaining, ?_⟩
  rw [← String.ofList_append, ← String.ofList_append, List.drop_zero, cursor.token_parts begins]
  rfl

end Cursor

namespace RawString

/-- A session moves its cursor and does nothing else to it. -/
theorem step_moves (session : Session) (step : Session.Step) :
    ∃ moves, (session.step step).cursor = session.cursor.moves moves := by
  cases step with
  | scan valid =>
      obtain ⟨_, after, reads, missing | ⟨token, next, found, _⟩⟩ :=
        scan_cases valid session.state session.cursor
      · obtain ⟨moves, _, made⟩ := reads.moved
        exact ⟨moves, by rw [Session.step, missing, ← made]⟩
      · obtain ⟨⟨moves, _, made⟩, _⟩ := reads.setResult token
        exact ⟨moves, by rw [Session.step, found, ← made]⟩
  | move move => exact ⟨[move], rfl⟩
  | save => exact ⟨[], rfl⟩
  | load => exact ⟨[], rfl⟩

theorem run_moves (text : List Char) (steps : List Session.Step) :
    ∃ moves, (Session.run text steps).cursor = (Cursor.ofText text).moves moves := by
  induction steps using List.reverseRecOn with
  | nil => exact ⟨[], rfl⟩
  | append_singleton steps step ih =>
      obtain ⟨made, same⟩ := ih
      obtain ⟨last, moved⟩ := step_moves (Session.run text steps) step
      refine ⟨made ++ last, ?_⟩
      rw [Cursor.moves_append, ← same, ← moved, Session.run, List.foldl_append]
      rfl

end RawString

theorem offsets_ofText (input : String) :
    (Cursor.ofText input.toList).offsets = { text := input } := by
  rw [Cursor.offsets, Cursor.ofText_text, String.ofList_toList]
  rfl

/-- Whatever moves are made over a text, all offsets stay in it and between its characters, no slice is
taken out of place, and what the offsets tell is what the cursor tells. The end is reached where there
is no next character. Unless the token ends before it begins, the text falls into the front, the token
and what remains. What a session makes are such moves, also where it scans. -/
theorem offsets_inside (input : String) :
    (∀ moves : List Cursor.Move, ∃ offsets,
      let cursor := (Cursor.ofText input.toList).moves moves
      ({ text := input } : Offsets).moves? moves = some offsets ∧ offsets = cursor.offsets
        ∧ offsets.text = input ∧ offsets.Inside
        ∧ offsets.lookahead? = some cursor.lookahead
        ∧ offsets.tokenText? = some (String.ofList cursor.tokenText)
        ∧ offsets.remaining? = some (String.ofList cursor.remaining)
        ∧ offsets.atEnd = cursor.atEnd ∧ (offsets.atEnd = true ↔ offsets.lookahead? = some none)
        ∧ (offsets.start ≤ offsets.tokenEnd →
          ∃ front token rest, slice? input 0 offsets.start = some front
            ∧ offsets.tokenText? = some token ∧ offsets.remaining? = some rest
            ∧ front ++ token ++ rest = input))
      ∧ ∀ steps, ∃ moves, (RawString.Session.run input.toList steps).cursor =
        (Cursor.ofText input.toList).moves moves := by
  refine ⟨fun moves => ?_, RawString.run_moves input.toList⟩
  obtain ⟨moved, ordered, same⟩ := Cursor.offsets_moves (Cursor.ordered_ofText input.toList) moves
  generalize (Cursor.ofText input.toList).moves moves = cursor at moved ordered same
  rw [offsets_ofText] at moved
  have text : cursor.offsets.text = input := by
    rw [Cursor.offsets, same, Cursor.ofText_text, String.ofList_toList]
  have next := cursor.offsets_lookahead
  have ends : cursor.atEnd = true ↔ cursor.lookahead = none := by
    rw [Cursor.atEnd, Cursor.lookahead, List.isEmpty_iff, List.head?_eq_none_iff]
  refine ⟨cursor.offsets, moved, rfl, text, ordered.inside, next, cursor.offsets_tokenText,
    cursor.offsets_remaining, cursor.offsets_atEnd, ?_, ?_⟩
  · rw [cursor.offsets_atEnd, ends, next, Option.some_inj]
  · intro solid
    have parts := ordered.parts solid
    rwa [text] at parts

/-- A skipped character, a marked one and one that is read behind the mark, of one, two and three
bytes. -/
theorem offsets_inside_marked :
    let moves : List Cursor.Move := [.advance true, .advance false, .markEnd, .advance false]
    ({ text := "aé€" } : Offsets).moves? moves =
        some { text := "aé€", position := 6, start := 1, stop := some 3 }
      ∧ ∃ front token rest, slice? "aé€" 0 1 = some front ∧ slice? "aé€" 1 3 = some token
        ∧ slice? "aé€" 3 6 = some rest ∧ front ++ token ++ rest = "aé€" := by
  intro moves
  obtain ⟨offsets, moved, same, _, _, _, _, _, _, _, parts⟩ := (offsets_inside "aé€").1 moves
  have here : offsets = { text := "aé€", position := 6, start := 1, stop := some 3 } :=
    same.trans (by decide +kernel)
  subst here
  exact ⟨moved, parts (by decide)⟩

end Treegram
