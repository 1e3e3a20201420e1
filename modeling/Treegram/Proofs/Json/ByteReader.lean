import Treegram.Proofs.Json.RowTagging
import Treegram.Proofs.Scan.Offsets
import Treegram.Proofs.Unicode.ByteOrder

/-!
Tokens read byte by byte. The reader moves by bytes, over two of them behind a backslash, and slices
what it has read out of the text. It may come to stand inside of a character or behind the end, but a
token begins and ends between characters, where the characters of the text tell it to.
-/

namespace Treegram.Json

/-- A byte offset in a text, which may be any number. -/
structure ByteReader where
  text : String
  position : Nat := 0
  deriving DecidableEq

namespace ByteReader

/-- The byte at the position, as the character of its number. -/
def byte? (reader : ByteReader) : Option Char :=
  (Unicode.utf8Bytes reader.text)[reader.position]?.map fun byte => Char.ofNat byte.toNat

def skip (count : Nat) (reader : ByteReader) : ByteReader :=
  { reader with position := reader.position + count }

theorem byte_inside {reader : ByteReader} {c : Char} (here : reader.byte? = some c) :
    reader.position < (Unicode.utf8Bytes reader.text).length := by
  obtain ⟨byte, found, _⟩ := Option.map_eq_some_iff.mp here
  exact (List.getElem?_eq_some_iff.mp found).1

def eat? (wanted : Char) (reader : ByteReader) : Option ByteReader :=
  if reader.byte? = some wanted then some (reader.skip 1) else none

/-- Moves on as long as there are bytes of a kind. -/
def skipWhile (kind : Char → Bool) (reader : ByteReader) : ByteReader :=
  match _ : reader.byte? with
  | none => reader
  | some c => if kind c then (reader.skip 1).skipWhile kind else reader
termination_by (Unicode.utf8Bytes reader.text).length - reader.position
decreasing_by
  have inside := byte_inside ‹_›
  simp only [skip]
  omega

/-- Moves behind the closing quote. A backslash hides the byte behind it, if there is one. -/
def closing? (reader : ByteReader) : Option ByteReader :=
  match _ : reader.byte? with
  | none => none
  | some c =>
      if c = '\\' then (reader.skip 2).closing?
      else if c = '"' then some (reader.skip 1)
      else (reader.skip 1).closing?
termination_by (Unicode.utf8Bytes reader.text).length - reader.position
decreasing_by
  all_goals
    have inside := byte_inside ‹_›
    simp only [skip]
    omega

/-- What is read and where that ends, if there is something to read. No answer at all stands for a slice
out of place. -/
abbrev Read := Option (Option (String × ByteReader))

/-- What lies between two readers. -/
def slice (reader behind : ByteReader) : Read :=
  (slice? reader.text reader.position behind.position).map fun token => some (token, behind)

def string? (reader : ByteReader) : Read :=
  match (reader.eat? '"').bind closing? with
  | none => some none
  | some behind => reader.slice behind

/-- A number with a fraction or an exponent is none. -/
def integer? (reader : ByteReader) : Read :=
  let digits := (reader.eat? '-').getD reader
  let behind := digits.skipWhile Char.isDigit
  let next := behind.byte?
  if behind.position = digits.position ∨ next = some '.' ∨ next = some 'e' ∨ next = some 'E' then
    some none
  else reader.slice behind

/-- Tokens that are wrapped: what begins with a quote as a text, what begins like a number as a level. -/
def wrap (reader : ByteReader) : Read :=
  match reader.byte? with
  | none => some none
  | some c =>
      if c = '"' then
        reader.string?.map (·.map fun (token, behind) => ("\x7b\"String\":" ++ token ++ "\x7d", behind))
      else if c = '-' ∨ c.isDigit then
        reader.integer?.map
          (·.map fun (token, behind) => ("\x7b\"Integer\":" ++ token ++ "\x7d", behind))
      else some none

def scalar? (reader : ByteReader) : Read :=
  match reader.byte? with
  | none => some none
  | some c => if c = '"' then reader.string? else reader.integer?

/-- The scalar in an object that names its type. -/
def unwrap (reader : ByteReader) : Read :=
  match reader.eat? '\x7b' with
  | none => some none
  | some body => do
      match ← (body.skipWhile Scalar.isBlank).string? with
      | none => return none
      | some (tag, afterTag) =>
          if tag ≠ "\"String\"" ∧ tag ≠ "\"Integer\"" then return none
          else
            match (afterTag.skipWhile Scalar.isBlank).eat? ':' with
            | none => return none
            | some afterColon =>
                match ← (afterColon.skipWhile Scalar.isBlank).scalar? with
                | none => return none
                | some (scalar, afterScalar) =>
                    return ((afterScalar.skipWhile Scalar.isBlank).eat? '\x7d').map (scalar, ·)

/-- The reader behind so many characters of a text. -/
def behind (text : List Char) (count : Nat) : ByteReader :=
  ⟨String.ofList text, byteLength (text.take count)⟩

/-! ## Bytes of characters -/

/-- The bytes of a text, as the characters of their numbers. -/
def spread (text : List Char) : List Char :=
  text.flatMap fun c => (String.utf8EncodeChar c).map fun byte => Char.ofNat byte.toNat

/-- The bytes ahead. -/
def ahead (reader : ByteReader) : List Char :=
  ((Unicode.utf8Bytes reader.text).drop reader.position).map fun byte => Char.ofNat byte.toNat

theorem byte_ahead (reader : ByteReader) : reader.byte? = reader.ahead.head? := by
  rw [byte?, ahead, List.head?_map, List.head?_drop]

theorem ahead_skip (count : Nat) (reader : ByteReader) :
    (reader.skip count).ahead = reader.ahead.drop count := by
  rw [skip, ahead, ahead, ← List.map_drop, List.drop_drop]

theorem toNat_ofByte (byte : UInt8) : (Char.ofNat byte.toNat).toNat = byte.toNat := by
  have small : byte.toNat < 256 := byte.toNat_lt
  have valid : byte.toNat.isValidChar := .inl (by omega)
  rw [Char.ofNat, dif_pos valid]
  rfl

/-- The bytes of a character behind its first one have their highest bit set, and of a character above
ASCII all have. -/
theorem encode_high (c : Char) : ∃ first more, String.utf8EncodeChar c = first :: more
    ∧ (∀ byte ∈ more, 128 ≤ byte.toNat)
    ∧ (c.toNat < 128 ∧ first = UInt8.ofNat c.toNat ∧ more = [] ∨ 128 ≤ c.toNat ∧ 128 ≤ first.toNat) := by
  have value : c.toNat = c.val.toNat := rfl
  have bound : c.val.toNat < 0x110000 := by
    rcases c.valid with low | ⟨_, high⟩
    · exact Nat.lt_trans low (by decide)
    · exact high
  rw [value, String.utf8EncodeChar]
  split
  · exact ⟨_, _, rfl, List.forall_mem_nil _, .inl ⟨by omega, rfl, rfl⟩⟩
  · have large : 128 ≤ c.val.toNat := by omega
    split
    case' isFalse => split
    all_goals
      refine ⟨_, _, rfl, ?_, .inr ⟨large, ?_⟩⟩
      all_goals
        simp only [List.forall_mem_cons, List.not_mem_nil, false_implies, implies_true, and_true,
          UInt8.toNat_ofNat']
        omega

/-- A character of ASCII is its own byte. Of other characters, no byte is one of ASCII. -/
theorem spread_cons (c : Char) (rest : List Char) : ∃ first more,
    spread (c :: rest) = first :: (more ++ spread rest) ∧ c.utf8Size = 1 + more.length
      ∧ (∀ d ∈ more, 128 ≤ d.toNat)
      ∧ (c.toNat < 128 ∧ first = c ∧ more = [] ∨ 128 ≤ c.toNat ∧ 128 ≤ first.toNat) := by
  obtain ⟨first, more, shape, high, either⟩ := encode_high c
  have size := String.length_utf8EncodeChar c
  rw [shape, List.length_cons] at size
  refine ⟨Char.ofNat first.toNat, more.map fun byte => Char.ofNat byte.toNat, ?_, ?_, ?_, ?_⟩
  · simp [spread, shape]
  · rw [List.length_map]
    omega
  · intro d held
    obtain ⟨byte, found, rfl⟩ := List.mem_map.mp held
    rw [toNat_ofByte]
    exact high byte found
  · rcases either with ⟨small, rfl, rfl⟩ | ⟨large, other⟩
    · have number : (UInt8.ofNat c.toNat).toNat = c.toNat := by
        rw [UInt8.toNat_ofNat']
        omega
      rw [number, Char.ofNat_toNat]
      exact .inl ⟨small, rfl, rfl⟩
    · rw [toNat_ofByte]
      exact .inr ⟨large, other⟩

/-! ## Readers between characters -/

variable {text : List Char} {count : Nat}

theorem spread_append (first second : List Char) :
    spread (first ++ second) = spread first ++ spread second :=
  List.flatMap_append

theorem length_spread (text : List Char) : (spread text).length = byteLength text := by
  induction text with
  | nil => rfl
  | cons c rest ih =>
      obtain ⟨first, more, shape, size, _⟩ := spread_cons c rest
      rw [shape, List.length_cons, List.length_append, ih]
      show more.length + byteLength rest + 1 = c.utf8Size + byteLength rest
      omega

theorem ahead_behind (text : List Char) (count : Nat) :
    (behind text count).ahead = spread (text.drop count) := by
  have whole : (Unicode.utf8Bytes (String.ofList text)).map (fun byte => Char.ofNat byte.toNat) =
      spread text := by
    rw [Unicode.utf8Bytes_eq, String.toList_ofList, List.map_flatMap]
    rfl
  have parts : spread text = spread (text.take count) ++ spread (text.drop count) := by
    rw [← spread_append, List.take_append_drop]
  rw [ahead, behind, List.map_drop, whole, parts, ← length_spread, List.drop_left]

/-- What the reader sees of a text: a character of ASCII or some byte above that. -/
theorem byte_behind (text : List Char) (count : Nat) :
    (behind text count).byte? = (spread (text.drop count)).head? := by
  rw [byte_ahead, ahead_behind]

theorem byte_end (left : text.drop count = []) : (behind text count).byte? = none := by
  rw [byte_behind, left]
  rfl

theorem byte_ascii {wanted : Char} (ascii : wanted.toNat < 128) (text : List Char) (count : Nat) :
    (behind text count).byte? = some wanted ↔ text[count]? = some wanted := by
  rw [byte_behind, ← List.head?_drop]
  cases text.drop count with
  | nil => rfl
  | cons c rest =>
      obtain ⟨first, more, shape, _, _, ⟨_, rfl, _⟩ | ⟨large, high⟩⟩ := spread_cons c rest
      · rw [shape]
        rfl
      · rw [shape, List.head?_cons, List.head?_cons, Option.some_inj, Option.some_inj]
        constructor
        · rintro rfl
          omega
        · rintro rfl
          omega

theorem drop_cons {c : Char} {rest : List Char} (left : text.drop count = c :: rest) :
    text[count]? = some c ∧ text.drop (count + 1) = rest := by
  rw [← List.head?_drop, ← List.drop_drop, left]
  exact ⟨rfl, rfl⟩

theorem byteLength_take {c : Char} (here : text[count]? = some c) :
    byteLength (text.take (count + 1)) = byteLength (text.take count) + c.utf8Size := by
  rw [List.take_add_one, here, byteLength_append]
  rfl

theorem skip_ascii {c : Char} (here : text[count]? = some c) (ascii : c.toNat < 128) :
    (behind text count).skip 1 = behind text (count + 1) := by
  have size : c.utf8Size = 1 := by
    obtain ⟨_, _, _, size, _, ⟨_, _, rfl⟩ | ⟨large, _⟩⟩ := spread_cons c []
    · exact size
    · omega
  have reached := byteLength_take here
  rw [size] at reached
  rw [behind, behind, reached]
  rfl

/-- Between characters, a byte of ASCII is eaten where the character stands. -/
theorem eat_cases {wanted : Char} (ascii : wanted.toNat < 128) (text : List Char) (count : Nat) :
    (text.drop count = wanted :: text.drop (count + 1)
        ∧ (behind text count).eat? wanted = some (behind text (count + 1)))
      ∨ (∀ rest, text.drop count ≠ wanted :: rest) ∧ (behind text count).eat? wanted = none := by
  have known := byte_ascii ascii text count
  by_cases here : text[count]? = some wanted
  · obtain ⟨inside, same⟩ := List.getElem?_eq_some_iff.mp here
    refine .inl ⟨?_, ?_⟩
    · rw [List.drop_eq_getElem_cons inside, same]
    · rw [eat?, if_pos (known.mpr here), skip_ascii here ascii]
  · refine .inr ⟨fun rest left => here (drop_cons left).1, ?_⟩
    rw [eat?, if_neg (here ∘ known.mp)]

variable {reader : ByteReader}

theorem skipWhile_none (kind : Char → Bool) (ended : reader.byte? = none) :
    reader.skipWhile kind = reader := by
  rw [skipWhile]
  split
  · rfl
  · simp_all

theorem skipWhile_some (kind : Char → Bool) {c : Char} (here : reader.byte? = some c) :
    reader.skipWhile kind = if kind c then (reader.skip 1).skipWhile kind else reader := by
  rw [skipWhile]
  split <;> simp_all

theorem closing_none (ended : reader.byte? = none) : reader.closing? = none := by
  rw [closing?]
  split <;> simp_all

theorem closing_some {c : Char} (here : reader.byte? = some c) :
    reader.closing? =
      if c = '\\' then (reader.skip 2).closing?
      else if c = '"' then some (reader.skip 1)
      else (reader.skip 1).closing? := by
  rw [closing?]
  split <;> simp_all

/-- A kind of bytes that are characters by themselves. -/
def IsAscii (kind : Char → Bool) : Prop := ∀ c, kind c = true → c.toNat < 128

theorem isAscii_eq {wanted : Char} (ascii : wanted.toNat < 128) : IsAscii (· == wanted) := by
  intro c same
  rw [beq_iff_eq] at same
  rwa [same]

theorem isAscii_digit : IsAscii Char.isDigit := by
  intro c digit
  simp only [Char.isDigit, Bool.and_eq_true, decide_eq_true_eq] at digit
  have last : c.toNat ≤ 57 := digit.2
  omega

theorem isAscii_start : IsAscii Token.isNumberStart := by
  intro c start
  rw [Token.isNumberStart, Bool.or_eq_true, beq_iff_eq] at start
  rcases start with rfl | digit
  · decide
  · exact isAscii_digit c digit

theorem isAscii_blank : IsAscii Scalar.isBlank := by
  intro c blank
  simp only [Scalar.isBlank, Bool.or_eq_true, beq_iff_eq] at blank
  rcases blank with (((rfl | rfl) | rfl) | rfl) | rfl <;> decide

/-- Kinds of ASCII cannot tell the first byte of a character from the character. -/
theorem byte_char {c : Char} {rest : List Char} (left : text.drop count = c :: rest) :
    ∃ first, (behind text count).byte? = some first ∧ (∀ kind, IsAscii kind → kind first = kind c)
      ∧ ∀ wanted : Char, wanted.toNat < 128 → (first = wanted ↔ c = wanted) := by
  obtain ⟨first, more, shape, _, _, either⟩ := spread_cons c rest
  have seen : (behind text count).byte? = some first := by
    rw [byte_behind, left, shape]
    rfl
  have same (kind : Char → Bool) (ascii : IsAscii kind) : kind first = kind c := by
    rcases either with ⟨_, rfl, _⟩ | ⟨large, high⟩
    · rfl
    · have neither {d : Char} (above : 128 ≤ d.toNat) : kind d = false := by
        by_contra passes
        exact absurd (ascii d (by simpa using passes)) (by omega)
      rw [neither large, neither high]
  exact ⟨first, seen, same, fun wanted ascii => by simpa using same _ (isAscii_eq ascii)⟩

theorem skipWhile_behind {kind : Char → Bool} (ascii : IsAscii kind) (text : List Char) (count : Nat) :
    (behind text count).skipWhile kind =
      behind text (count + ((text.drop count).takeWhile kind).length) := by
  generalize left : text.drop count = rest
  induction rest generalizing count with
  | nil => exact skipWhile_none kind (byte_end left)
  | cons c rest ih =>
      obtain ⟨here, next⟩ := drop_cons left
      obtain ⟨first, seen, same, _⟩ := byte_char left
      rw [skipWhile_some kind seen, same kind ascii, List.takeWhile_cons]
      cases known : kind c with
      | true =>
          rw [if_pos rfl, if_pos rfl, skip_ascii here (ascii c known), ih _ next, List.length_cons]
          congr 1
          omega
      | false =>
          rw [if_neg Bool.false_ne_true, if_neg Bool.false_ne_true]
          rfl

/-- Bytes above ASCII neither close a quoted text nor hide what is behind them. -/
theorem closing_high {more rest : List Char} (high : ∀ d ∈ more, 128 ≤ d.toNat)
    (left : reader.ahead = more ++ rest) : reader.closing? = (reader.skip more.length).closing? := by
  induction more generalizing reader with
  | nil => rfl
  | cons d more ih =>
      obtain ⟨large, others⟩ := List.forall_mem_cons.mp high
      have seen : reader.byte? = some d := by rw [byte_ahead, left]; rfl
      have slash : d ≠ '\\' := by
        rintro rfl
        exact absurd large (by decide)
      have quote : d ≠ '"' := by
        rintro rfl
        exact absurd large (by decide)
      have next : (reader.skip 1).ahead = more ++ rest := by rw [ahead_skip, left]; rfl
      rw [closing_some seen, if_neg slash, if_neg quote, ih others next]
      simp only [skip, List.length_cons, Nat.add_assoc, Nat.add_comm 1]

theorem skip_behind {c : Char} (here : text[count]? = some c) :
    (behind text count).skip c.utf8Size = behind text (count + 1) := by
  rw [behind, behind, byteLength_take here]
  rfl

/-- Wherever behind the first byte of a character the reader stands, the rest of it closes nothing. -/
theorem closing_hidden {c : Char} {rest : List Char} (left : text.drop count = c :: rest) :
    ((behind text count).skip 1).closing? = (behind text (count + 1)).closing? := by
  obtain ⟨first, more, shape, size, high, _⟩ := spread_cons c rest
  have remaining : ((behind text count).skip 1).ahead = more ++ spread rest := by
    rw [ahead_skip, ahead_behind, left, shape]
    rfl
  rw [closing_high high remaining, ← skip_behind (drop_cons left).1, size]
  simp only [skip, Nat.add_assoc]

theorem closing_plain {c : Char} {rest : List Char} (left : text.drop count = c :: rest)
    (quote : c ≠ '"') (slash : c ≠ '\\') :
    (behind text count).closing? = (behind text (count + 1)).closing? := by
  obtain ⟨first, seen, _, same⟩ := byte_char left
  rw [closing_some seen, if_neg (slash ∘ (same _ (by decide)).mp),
    if_neg (quote ∘ (same _ (by decide)).mp), closing_hidden left]

/-- The closing quote is found where the characters have it. -/
theorem closing_behind (passed : Nat) (text : List Char) (count : Nat) :
    (behind text count).closing? =
      (Json.closing? passed (text.drop count)).map fun size => behind text (count + size - passed) := by
  generalize left : text.drop count = rest
  fun_induction Json.closing? passed rest generalizing count with
  | case1 passed => exact closing_none (byte_end left)
  | case2 passed rest =>
      obtain ⟨here, next⟩ := drop_cons left
      have seen := (byte_ascii (by decide) text count).mpr here
      rw [closing_some seen, if_neg (by decide), if_pos rfl, skip_ascii here (by decide)]
      simp only [Option.map_some]
      congr 2
      omega
  | case3 passed c rest ih =>
      obtain ⟨here, next⟩ := drop_cons left
      obtain ⟨_, others⟩ := drop_cons next
      have seen := (byte_ascii (by decide) text count).mpr here
      have jump : (behind text count).skip 2 = (behind text (count + 1)).skip 1 := by
        rw [← skip_ascii here (by decide)]
        rfl
      -- The reader may land inside of the hidden character, whose other bytes hide nothing.
      rw [closing_some seen, if_pos rfl, jump, closing_hidden next, ih (count + 2) others]
      congr 1
      funext size
      congr 1
      omega
  | case4 passed =>
      obtain ⟨here, next⟩ := drop_cons left
      have seen := (byte_ascii (by decide) text count).mpr here
      have ended : ((behind text count).skip 2).byte? = none := by
        rw [byte_ahead, ahead_skip, ahead_behind, left]
        rfl
      rw [closing_some seen, if_pos rfl, closing_none ended]
      rfl
  | case5 passed c rest quote slash alone ih =>
      obtain ⟨here, next⟩ := drop_cons left
      have visible : c ≠ '\\' := by
        rintro rfl
        cases rest with
        | nil => exact alone rfl rfl
        | cons d rest => exact slash d rest rfl rfl
      rw [closing_plain left quote visible, ih (count + 1) next]
      congr 1
      funext size
      congr 1
      omega

/-! ## Tokens -/

/-- What there is to read behind so many characters, in characters. -/
def token (text : List Char) (count : Nat) (size : Option Nat) : Read :=
  some (size.map fun size => (String.ofList ((text.drop count).take size), behind text (count + size)))

theorem slice_behind (text : List Char) (count size : Nat) :
    (behind text count).slice (behind text (count + size)) = token text count (some size) := by
  have inside := slice_take text (Nat.le_add_right count size)
  rw [List.drop_take, Nat.add_sub_cancel_left] at inside
  exact congrArg _ inside

theorem string_behind (text : List Char) (count : Nat) :
    (behind text count).string? = token text count (Scalar.quotedLength? (text.drop count)) := by
  rw [string?]
  rcases eat_cases (show '"'.toNat < 128 by decide) text count with ⟨left, eaten⟩ | ⟨other, eaten⟩
  case inr =>
    simp only [eaten, Option.bind_none, Scalar.quotedLength?]
    rfl
  rw [left, eaten, Option.bind_some, closing_behind 1 text (count + 1),
    Scalar.quotedLength?]
  cases Json.closing? 1 (text.drop (count + 1)) with
  | none => rfl
  | some size =>
      have place : count + 1 + size - 1 = count + size := by omega
      rw [Option.map_some, place]
      exact slice_behind text count size

/-- The positions behind different numbers of characters are different. -/
theorem position_behind {more : Nat} (inside : more ≤ (text.drop count).length) :
    (behind text (count + more)).position = (behind text count).position ↔ more = 0 := by
  have parts : byteLength (text.take (count + more)) =
      byteLength (text.take count) + byteLength ((text.drop count).take more) := by
    rw [List.take_add, byteLength_append]
  show byteLength (text.take (count + more)) = byteLength (text.take count) ↔ _
  constructor
  · intro same
    by_contra solid
    have some : (text.drop count).take more ≠ [] := by
      rw [← List.length_pos_iff, List.length_take]
      omega
    have positive := byteLength_pos some
    omega
  · rintro rfl
    rfl

theorem integer_behind (text : List Char) (count : Nat) :
    (behind text count).integer? = token text count (Scalar.integerLength? (text.drop count)) := by
  have signed : ((behind text count).eat? '-').getD (behind text count) =
      behind text (count + if (text.drop count).head? = some '-' then 1 else 0) := by
    rcases eat_cases (show '-'.toNat < 128 by decide) text count with ⟨left, eaten⟩ | ⟨other, eaten⟩
    · rw [left, eaten]
      rfl
    · have unsigned : (text.drop count).head? ≠ some '-' := by
        intro head
        obtain ⟨rest, left⟩ := List.head?_eq_some_iff.mp head
        exact other rest left
      rw [eaten, if_neg unsigned]
      rfl
  -- The sign is one character and one byte, so that the digits begin at the same place for both.
  rw [integer?, signed, Scalar.integerLength?]
  generalize (if (text.drop count).head? = some '-' then 1 else 0) = sign
  have digits : (text.drop (count + sign)).takeWhile Char.isDigit =
      ((text.drop count).drop sign).takeWhile Char.isDigit := by rw [List.drop_drop]
  have few : (((text.drop count).drop sign).takeWhile Char.isDigit).length ≤
      (text.drop (count + sign)).length := by
    rw [← digits]
    exact (List.takeWhile_prefix _).length_le
  simp only [skipWhile_behind isAscii_digit, digits]
  generalize (((text.drop count).drop sign).takeWhile Char.isDigit).length = size at few
  have mark (wanted : Char) (ascii : wanted.toNat < 128) :
      (behind text (count + sign + size)).byte? = some wanted ↔
        (text.drop count)[sign + size]? = some wanted := by
    rw [byte_ascii ascii, List.getElem?_drop, Nat.add_assoc]
  simp only [position_behind few, mark '.' (by decide), mark 'e' (by decide), mark 'E' (by decide)]
  split
  · rfl
  · rw [Nat.add_assoc]
    exact slice_behind text count (sign + size)

/-- What is replaced behind so many characters, and by what, is told by the characters. -/
def Replaces (replace : ByteReader → Read) (swap : Scalar.Swap) : Prop :=
  ∀ text count, replace (behind text count) =
    some ((swap (text.drop count)).map fun (size, new) =>
      (String.ofList new, behind text (count + size)))

theorem ofList_text (token : List Char) : String.ofList (Scalar.tagged Scalar.textTag token) =
    "\x7b\"String\":" ++ String.ofList token ++ "\x7d" := by
  apply String.toList_injective
  simp [Scalar.tagged, Scalar.textTag]

theorem ofList_level (token : List Char) : String.ofList (Scalar.tagged Scalar.levelTag token) =
    "\x7b\"Integer\":" ++ String.ofList token ++ "\x7d" := by
  apply String.toList_injective
  simp [Scalar.tagged, Scalar.levelTag]

theorem replaces_wrap : Replaces wrap Scalar.wrap := by
  intro text count
  cases left : text.drop count with
  | nil =>
      rw [wrap, byte_end left]
      rfl
  | cons c rest =>
      obtain ⟨first, seen, same, equal⟩ := byte_char left
      have quote := equal '"' (by decide)
      have start : first = '-' ∨ first.isDigit = true ↔ Token.isNumberStart c = true := by
        rw [← same Token.isNumberStart isAscii_start, Token.isNumberStart, Bool.or_eq_true, beq_iff_eq]
      simp only [wrap, seen, string_behind, integer_behind, left, quote, start, token, Scalar.wrap]
      split
      · rename_i known
        subst known
        rw [Scalar.integerLength_other (by decide)]
        cases Scalar.quotedLength? ('"' :: rest) <;> simp [ofList_text]
      · rename_i other
        rw [Scalar.quotedLength_other other]
        split
        · cases Scalar.integerLength? (c :: rest) <;> simp [ofList_level]
        · rename_i ends
          rw [Scalar.integerLength_other (by simpa using ends)]
          rfl

theorem blanks_behind (text : List Char) (count : Nat) :
    (behind text count).skipWhile Scalar.isBlank =
      behind text (count + Scalar.blanks (text.drop count)) :=
  skipWhile_behind isAscii_blank text count

theorem ofList_tag (token : List Char) :
    (String.ofList token ≠ "\"String\"" ∧ String.ofList token ≠ "\"Integer\"") ↔
      ¬ (token = '"' :: (Scalar.textTag ++ ['"']) ∨ token = '"' :: (Scalar.levelTag ++ ['"'])) := by
  have text : "\"String\"" = String.ofList ('"' :: (Scalar.textTag ++ ['"'])) := rfl
  have level : "\"Integer\"" = String.ofList ('"' :: (Scalar.levelTag ++ ['"'])) := rfl
  rw [text, level, ne_eq, ne_eq, String.ofList_inj, String.ofList_inj, not_or]

/-- A scalar that begins with a quote is a text or nothing. -/
theorem scalar_behind (text : List Char) (count : Nat) :
    (behind text count).scalar? = token text count (Scalar.scalarLength? (text.drop count)) := by
  cases left : text.drop count with
  | nil =>
      rw [scalar?, byte_end left]
      rfl
  | cons c rest =>
      obtain ⟨first, seen, _, equal⟩ := byte_char left
      have quote := equal '"' (by decide)
      simp only [scalar?, seen, string_behind, integer_behind, left, quote, Scalar.scalarLength?]
      split
      · rename_i known
        subst known
        rw [Scalar.integerLength_other (by decide), Option.or_none]
      · rename_i other
        rw [Scalar.quotedLength_other other, Option.none_or]

theorem replaces_unwrap : Replaces unwrap Scalar.unwrap := by
  intro text count
  rw [unwrap, Scalar.unwrap.eq_def]
  -- Part by part, both sides give up at the same one or go on to the same place, which gets a name.
  rcases eat_cases (show '\x7b'.toNat < 128 by decide) text count with ⟨left, eaten⟩ | ⟨other, eaten⟩
  case inr =>
    simp only [eaten]
    rfl
  rw [left, eaten]
  simp only [blanks_behind, string_behind, List.drop_drop]
  generalize first : count + 1 + Scalar.blanks (text.drop (count + 1)) = toTag
  cases Scalar.quotedLength? (text.drop toTag) with
  | none => rfl
  | some tagLength =>
      simp only [token, Option.map_some, Option.bind_eq_bind, Option.bind_some, ofList_tag,
        blanks_behind]
      generalize second : toTag + tagLength + Scalar.blanks (text.drop (toTag + tagLength)) = toColon
      by_cases named : (text.drop toTag).take tagLength = '"' :: (Scalar.textTag ++ ['"'])
          ∨ (text.drop toTag).take tagLength = '"' :: (Scalar.levelTag ++ ['"'])
      case neg =>
        rw [if_pos named, if_neg named]
        rfl
      rw [if_neg (not_not_intro named), if_pos named]
      rcases eat_cases (show ':'.toNat < 128 by decide) text toColon with ⟨left, eaten⟩ | ⟨other, eaten⟩
      case inr =>
        simp only [eaten]
        rfl
      rw [left, eaten]
      simp only [blanks_behind, scalar_behind, List.drop_drop, ← Nat.add_assoc]
      generalize third : toColon + 1 + Scalar.blanks (text.drop (toColon + 1)) = toScalar
      cases Scalar.scalarLength? (text.drop toScalar) with
      | none => rfl
      | some size =>
          simp only [token, Option.map_some, Option.bind_some, blanks_behind]
          generalize fourth : toScalar + size + Scalar.blanks (text.drop (toScalar + size)) = toEnd
          rcases eat_cases (show '\x7d'.toNat < 128 by decide) text toEnd with
            ⟨left, eaten⟩ | ⟨other, eaten⟩
          case inr =>
            simp only [eaten]
            rfl
          rw [left, eaten]
          have whole : toEnd + 1 = count + (1 + Scalar.blanks (text.drop (count + 1)) + tagLength
              + Scalar.blanks (text.drop (toTag + tagLength)) + 1
              + Scalar.blanks (text.drop (toColon + 1)) + size
              + Scalar.blanks (text.drop (toScalar + size)) + 1) := by omega
          rw [whole]
          rfl

end ByteReader

end Treegram.Json
