import Treegram.Proofs.Json.Reading
import Treegram.Proofs.Json.Strict

/-!
Scalars as they may be spelled. A quoted text is read as the characters that its code units stand
for, however these are spelled, and a strict number is read back in all its parts, whatever follows
that does not go on it.
-/

namespace Treegram.Json

/-! ## Quoted texts -/

/-- The code units of a character: one, or two above the basic plane. -/
def codeUnits (c : Char) : List Nat :=
  if c.toNat < 0x10000 then [c.toNat]
  else [0xD800 + (c.toNat - 0x10000) / 0x400, 0xDC00 + (c.toNat - 0x10000) % 0x400]

/-- Code units and what may stand for them between quotes. A unit by itself may be half of a pair, with
its other half missing. -/
inductive SpellsUnits : List Nat → List Char → Prop where
  | nil : SpellsUnits [] []
  | raw {c : Char} {units : List Nat} {inside : List Char} (control : 0x20 ≤ c.toNat)
      (quote : c ≠ '"') (slash : c ≠ '\\') (behind : SpellsUnits units inside) :
      SpellsUnits (codeUnits c ++ units) (c :: inside)
  | short {letter c : Char} {units : List Nat} {inside : List Char}
      (known : (letter, c) ∈ shortEscapes) (behind : SpellsUnits units inside) :
      SpellsUnits (c.toNat :: units) ('\\' :: letter :: inside)
  | unit {digits : List Char} {number : Nat} {units : List Nat} {inside : List Char}
      (spelled : IsCodeUnit digits number) (behind : SpellsUnits units inside) :
      SpellsUnits (number :: units) ('\\' :: 'u' :: (digits ++ inside))

/-- What may stand between quotes. -/
def IsInside (inside : List Char) : Prop := ∃ units, SpellsUnits units inside

/-- Two ways to spell the same characters. -/
def SameInside (inside other : List Char) : Prop :=
  ∃ units, SpellsUnits units inside ∧ SpellsUnits units other

/-- The characters that code units stand for; one of a pair alone stands for nothing. -/
def decodeUnits : List Nat → Option (List Char)
  | [] => some []
  | unit :: rest =>
      if unit < 0xD800 ∨ 0xE000 ≤ unit then (decodeUnits rest).map (Char.ofNat unit :: ·)
      else if unit < 0xDC00 then
        match rest with
        | [] => none
        | low :: rest =>
            if 0xDC00 ≤ low ∧ low < 0xE000 then
              (decodeUnits rest).map
                (Char.ofNat (0x10000 + (unit - 0xD800) * 0x400 + (low - 0xDC00)) :: ·)
            else none
      else none

theorem decode_basic {unit : Nat} (basic : unit < 0xD800 ∨ 0xE000 ≤ unit) (rest : List Nat) :
    decodeUnits (unit :: rest) = (decodeUnits rest).map (Char.ofNat unit :: ·) := by
  rw [decodeUnits.eq_def]
  simp only [if_pos basic]

/-- No character is half of a pair. -/
theorem toNat_valid (c : Char) :
    c.toNat < 0xD800 ∨ (0xE000 ≤ c.toNat ∧ c.toNat < 0x110000) := by
  have valid := c.valid
  simp only [UInt32.isValidChar, Nat.isValidChar] at valid
  change c.toNat < 0xD800 ∨ 0xDFFF < c.toNat ∧ c.toNat < 0x110000 at valid
  omega

theorem decode_char (c : Char) (rest : List Nat) :
    decodeUnits (codeUnits c ++ rest) = (decodeUnits rest).map (c :: ·) := by
  have valid := toNat_valid c
  rw [codeUnits]
  split
  · rw [List.singleton_append, decode_basic (by omega), Char.ofNat_toNat]
  · have whole : 0x10000 + (0xD800 + (c.toNat - 0x10000) / 0x400 - 0xD800) * 0x400
        + (0xDC00 + (c.toNat - 0x10000) % 0x400 - 0xDC00) = c.toNat := by omega
    rw [List.cons_append, List.singleton_append, decodeUnits, if_neg (by omega), if_pos (by omega),
      if_pos (by omega), whole, Char.ofNat_toNat]

theorem hexValue_plain {c : Char} {value : Nat} (known : hexValue? c = some value) :
    c ≠ '"' ∧ c ≠ '\\' ∧ c ≠ '+' := by
  refine ⟨?_, ?_, ?_⟩ <;> rintro rfl <;> cases known

/-- The digits of a code unit one by one. -/
theorem IsCodeUnit.digits {digits : List Char} {number : Nat} (spelled : IsCodeUnit digits number) :
    ∃ a b c d, digits = [a, b, c, d] ∧ ∀ digit ∈ digits, digit ≠ '"' ∧ digit ≠ '\\' ∧ digit ≠ '+' := by
  obtain ⟨length, read⟩ := spelled
  obtain ⟨a, b, c, d, rfl⟩ : ∃ a b c d, digits = [a, b, c, d] := by
    match digits, length with
    | [a, b, c, d], _ => exact ⟨a, b, c, d, rfl⟩
  refine ⟨a, b, c, d, rfl, ?_⟩
  simp only [List.foldlM_cons, Option.bind_eq_bind, Option.bind_eq_some_iff, Option.map_eq_some_iff] at read
  obtain ⟨_, ⟨_, first, _⟩, _, ⟨_, second, _⟩, _, ⟨_, third, _⟩, _, ⟨_, fourth, _⟩, _⟩ := read
  simp only [List.forall_mem_cons, List.not_mem_nil, false_implies, implies_true, and_true]
  exact ⟨hexValue_plain first, hexValue_plain second, hexValue_plain third, hexValue_plain fourth⟩

theorem IsCodeUnit.read {digits : List Char} {number : Nat} (spelled : IsCodeUnit digits number) :
    codeUnit? digits = some number := by
  obtain ⟨a, b, c, d, rfl, plain⟩ := spelled.digits
  have sign : a ≠ '+' := (plain a List.mem_cons_self).2.2
  rw [codeUnit?, if_pos spelled.1, List.head?_cons, if_neg (by simpa using sign)]
  exact spelled.2

/-- A short escape is no numbered one, and stands for a character of ASCII. -/
theorem shortEscapes_read {letter c : Char} (known : (letter, c) ∈ shortEscapes) :
    letter ≠ 'u' ∧ c.toNat < 0x80 ∧ ∀ rest, escaped? (letter :: rest) = some (c, 1) := by
  simp only [shortEscapes, List.mem_cons, Prod.mk.injEq, List.not_mem_nil, or_false] at known
  rcases known with ⟨rfl, rfl⟩ | ⟨rfl, rfl⟩ | ⟨rfl, rfl⟩ | ⟨rfl, rfl⟩ | ⟨rfl, rfl⟩ | ⟨rfl, rfl⟩ |
    ⟨rfl, rfl⟩ | ⟨rfl, rfl⟩ <;> exact ⟨by decide, by decide, fun _ => rfl⟩

theorem decode_alone {unit : Nat} (half : ¬ (unit < 0xD800 ∨ 0xE000 ≤ unit)) {rest : List Nat}
    (other : unit < 0xDC00 → ∀ low ∈ rest.head?, ¬ (0xDC00 ≤ low ∧ low < 0xE000)) :
    decodeUnits (unit :: rest) = none := by
  rw [decodeUnits.eq_def]
  simp only [if_neg half]
  split
  · rename_i high
    cases rest with
    | nil => rfl
    | cons low rest => exact if_neg (other high low rfl)
  · rfl

theorem decode_pair {unit low : Nat} (half : ¬ (unit < 0xD800 ∨ 0xE000 ≤ unit))
    (high : unit < 0xDC00) (range : 0xDC00 ≤ low ∧ low < 0xE000) (rest : List Nat) :
    decodeUnits (unit :: low :: rest) = (decodeUnits rest).map
      (Char.ofNat (0x10000 + (unit - 0xD800) * 0x400 + (low - 0xDC00)) :: ·) := by
  rw [decodeUnits, if_neg half, if_pos high, if_pos range]

theorem codeUnits_head (c : Char) (rest : List Nat) :
    ∀ low ∈ (codeUnits c ++ rest).head?, ¬ (0xDC00 ≤ low ∧ low < 0xE000) := by
  have valid := toNat_valid c
  rw [codeUnits]
  split <;> simp only [List.cons_append, List.head?_cons, Option.mem_def, Option.some.injEq,
    forall_eq'] <;> omega

section Numbered
variable {digits : List Char} {number : Nat} (spelled : IsCodeUnit digits number)
include spelled

theorem escaped_unit (inside : List Char) :
    escaped? ('u' :: (digits ++ inside)) =
      if number < 0xD800 ∨ 0xE000 ≤ number then some (Char.ofNat number, 5)
      else if number < 0xDC00 then
        match inside with
        | '\\' :: 'u' :: tail =>
            match codeUnit? (tail.take 4) with
            | some low =>
                if 0xDC00 ≤ low ∧ low < 0xE000 then
                  some (Char.ofNat (0x10000 + (number - 0xD800) * 0x400 + (low - 0xDC00)), 11)
                else none
            | none => none
        | _ => none
      else none := by
  have length := spelled.1
  rewrite [escaped?, List.take_left' length, List.drop_left' length, spelled.read]
  rfl

theorem unescape_basic (basic : number < 0xD800 ∨ 0xE000 ≤ number) (inside : List Char) :
    unescape? ('\\' :: 'u' :: (digits ++ inside)) =
      (unescape? inside).map (Char.ofNat number :: ·) := by
  have meant := escaped_unit spelled inside
  rw [if_pos basic] at meant
  rw [unescape_escaped meant, List.drop_succ_cons, List.drop_left' spelled.1]

theorem unescape_alone (half : ¬ (number < 0xD800 ∨ 0xE000 ≤ number)) {inside : List Char}
    (other : number < 0xDC00 → ∀ tail, inside = '\\' :: 'u' :: tail →
      ∀ low, codeUnit? (tail.take 4) = some low → ¬ (0xDC00 ≤ low ∧ low < 0xE000)) :
    unescape? ('\\' :: 'u' :: (digits ++ inside)) = none := by
  have meant : escaped? ('u' :: (digits ++ inside)) = none := by
    rw [escaped_unit spelled, if_neg half]
    split
    · rename_i high
      split
      · rename_i tail
        split
        · rename_i low read
          exact if_neg (other high tail rfl low read)
        · rfl
      · rfl
    · rfl
  rw [unescape?, if_pos rfl, meant]

theorem unescape_pair (half : ¬ (number < 0xD800 ∨ 0xE000 ≤ number)) (high : number < 0xDC00)
    {followers : List Char} {low : Nat} (second : IsCodeUnit followers low)
    (range : 0xDC00 ≤ low ∧ low < 0xE000) (inside : List Char) :
    unescape? ('\\' :: 'u' :: (digits ++ '\\' :: 'u' :: (followers ++ inside))) =
      (unescape? inside).map
        (Char.ofNat (0x10000 + (number - 0xD800) * 0x400 + (low - 0xDC00)) :: ·) := by
  have meant := escaped_unit spelled ('\\' :: 'u' :: (followers ++ inside))
  simp only [if_neg half, if_pos high, List.take_left' second.1, second.read, if_pos range] at meant
  have behind : ('u' :: (digits ++ '\\' :: 'u' :: (followers ++ inside))).drop 11 = inside := by
    rw [show 11 = (digits.length + (followers.length + 2)) + 1 by rw [spelled.1, second.1],
      List.drop_succ_cons, List.drop_append]
    simp
  rw [unescape_escaped meant, behind]

end Numbered

/-- What stands between quotes is read as the characters its code units stand for. -/
theorem unescape_units {units : List Nat} {inside : List Char} (spelled : SpellsUnits units inside) :
    unescape? inside = decodeUnits units := by
  cases spelled with
  | nil => rw [unescape?, decodeUnits]
  | raw control quote slash behind =>
      rw [unescape_plain slash, decode_char, unescape_units behind]
  | short known behind =>
      obtain ⟨_, small, read⟩ := shortEscapes_read known
      rw [unescape_named (read _), decode_basic (by omega), Char.ofNat_toNat, unescape_units behind]
  | @unit digits number units inside spelled behind =>
      by_cases basic : number < 0xD800 ∨ 0xE000 ≤ number
      · rw [unescape_basic spelled basic, decode_basic basic, unescape_units behind]
      -- Half of a pair needs the other half behind it, which only a numbered escape can be.
      cases behind with
      | nil => rw [unescape_alone spelled basic (by simp), decode_alone basic (by simp)]
      | @raw c units inside control quote slash behind =>
          rw [unescape_alone spelled basic fun _ tail same => absurd (List.cons.inj same).1 slash,
            decode_alone basic fun _ => codeUnits_head c units]
      | short known behind =>
          obtain ⟨letter, small, _⟩ := shortEscapes_read known
          rw [unescape_alone spelled basic fun _ tail same =>
              absurd (List.cons.inj (List.cons.inj same).2).1 letter,
            decode_alone basic fun _ low here => by
              rw [← Option.some.inj here]
              omega]
      | @unit followers low units inside second behind =>
          by_cases pair : number < 0xDC00 ∧ 0xDC00 ≤ low ∧ low < 0xE000
          · rw [unescape_pair spelled basic pair.1 second pair.2, decode_pair basic pair.1 pair.2,
              unescape_units behind]
          · rw [unescape_alone spelled basic, decode_alone basic]
            · intro high other here range
              obtain rfl := Option.some.inj here
              exact pair ⟨high, range⟩
            · intro high tail same other read range
              obtain ⟨_, rfl⟩ := List.cons.inj (List.cons.inj same).2
              rw [List.take_left' second.1, second.read] at read
              obtain rfl := Option.some.inj read
              exact pair ⟨high, range⟩
termination_by inside.length
decreasing_by all_goals simp; try omega

theorem SameInside.unescape {inside other : List Char} (same : SameInside inside other) :
    unescape? inside = unescape? other := by
  obtain ⟨units, left, right⟩ := same
  rw [unescape_units left, unescape_units right]

theorem SameInside.left {inside other : List Char} (same : SameInside inside other) : IsInside inside :=
  same.imp fun _ spelled => spelled.1

theorem SameInside.right {inside other : List Char} (same : SameInside inside other) : IsInside other :=
  same.imp fun _ spelled => spelled.2

theorem IsInside.same {inside : List Char} (spelled : IsInside inside) : SameInside inside inside :=
  spelled.imp fun _ known => ⟨known, known⟩

/-- Characters that are neither hidden nor hide others stand for themselves. -/
theorem isInside_plain {text : List Char}
    (plain : ∀ c ∈ text, 0x20 ≤ c.toNat ∧ c ≠ '"' ∧ c ≠ '\\') : IsInside text := by
  induction text with
  | nil => exact ⟨[], .nil⟩
  | cons c text ih =>
      obtain ⟨⟨control, quote, slash⟩, rest⟩ := List.forall_mem_cons.mp plain
      obtain ⟨units, behind⟩ := ih rest
      exact ⟨_, .raw control quote slash behind⟩

/-- A character of one byte, by itself and by its number. -/
theorem sameInside_numbered {c : Char} {rest : List Char} (small : c.toNat < 256)
    (control : 0x20 ≤ c.toNat) (quote : c ≠ '"') (slash : c ≠ '\\') (spelled : IsInside rest) :
    SameInside (c :: rest)
      ('\\' :: 'u' :: '0' :: '0' :: hexDigit (c.toNat / 16) :: hexDigit (c.toNat % 16) :: rest) := by
  obtain ⟨units, behind⟩ := spelled
  have basic : codeUnits c = [c.toNat] := by rw [codeUnits, if_pos (by omega)]
  have raw := SpellsUnits.raw control quote slash behind
  rw [basic] at raw
  exact ⟨c.toNat :: units, raw, .unit (isCodeUnit_small small) behind⟩

/-- The quote behind what stands between quotes is the first one that is not hidden. -/
theorem closing_inside {units : List Nat} {inside : List Char} (spelled : SpellsUnits units inside)
    (count : Nat) (rest : List Char) :
    closing? count (inside ++ '"' :: rest) = some (count + inside.length + 1) := by
  induction spelled generalizing count with
  | nil => rfl
  | raw control quote slash behind ih =>
      rw [List.cons_append, closing_plain quote slash, ih, List.length_cons]
      congr 1
      omega
  | short known behind ih =>
      rw [List.cons_append, List.cons_append, closing_hidden, ih]
      simp only [List.length_cons]
      congr 1
      omega
  | unit spelled behind ih =>
      obtain ⟨a, b, c, d, rfl, plain⟩ := spelled.digits
      simp only [List.forall_mem_cons] at plain
      simp only [List.cons_append, List.nil_append, closing_hidden]
      rw [closing_plain plain.1.1 plain.1.2.1, closing_plain plain.2.1.1 plain.2.1.2.1,
        closing_plain plain.2.2.1.1 plain.2.2.1.2.1, closing_plain plain.2.2.2.1.1 plain.2.2.2.1.2.1, ih]
      simp only [List.length_cons]
      congr 1
      omega

/-! ## Numbers -/

/-- What may stand behind a number: nothing that goes on it. -/
def EndsNumber (behind : List Char) : Prop :=
  ∀ c ∈ behind.head?, c.isDigit = false ∧ c ≠ '.' ∧ c ≠ 'e' ∧ c ≠ 'E'

theorem takeWhile_stops {digits behind : List Char} (all : ∀ c ∈ digits, c.isDigit = true)
    (stops : ∀ c ∈ behind.head?, c.isDigit = false) :
    (digits ++ behind).takeWhile Char.isDigit = digits := by
  rw [List.takeWhile_append_of_pos all]
  cases behind with
  | nil => rw [List.takeWhile_nil, List.append_nil]
  | cons c rest => rw [List.takeWhile_cons, stops c rfl, if_neg (by decide), List.append_nil]

/-- The exponent of a number, if it has one, as it stands in a text. -/
def exponentChars (exponent : Option Exponent) : List Char := (exponent.map Exponent.chars).getD []

theorem exponent_front {exponent : Option Exponent} (strict : ∀ found ∈ exponent, found.IsStrict)
    {rest : List Char} (ends : EndsNumber rest) :
    Exponent.front? (exponentChars exponent ++ rest) = exponent := by
  cases exponent with
  | none =>
      cases rest with
      | nil => rfl
      | cons c rest =>
          obtain ⟨_, _, small, large⟩ := ends c rfl
          simp [exponentChars, Exponent.front?, small, large]
  | some exponent =>
      obtain ⟨letter, sign, digits⟩ := strict exponent rfl
      have digit (c : Char) (found : c ∈ exponent.digits) : (c == '+' || c == '-') = false := by
        have digit := digits.2 c found
        rw [Bool.or_eq_false_iff, beq_eq_false_iff_ne, beq_eq_false_iff_ne]
        constructor <;> rintro rfl <;> exact absurd digit (by decide)
      have read : ((exponent.sign.toList ++ (exponent.digits ++ rest)).head?.filter
          fun c => c == '+' || c == '-') = exponent.sign := by
        cases held : exponent.sign with
        | some mark =>
            rcases sign mark held with rfl | rfl <;> rfl
        | none =>
            obtain ⟨c, others, shape⟩ := List.exists_cons_of_ne_nil digits.1
            have plain := digit c (by simp [shape])
            simpa [shape] using plain
      have text : exponentChars (some exponent) ++ rest =
          exponent.letter :: (exponent.sign.toList ++ (exponent.digits ++ rest)) := by
        simp [exponentChars, Exponent.chars]
      rw [text, Exponent.front?, if_pos letter]
      simp only [read, List.drop_left, takeWhile_stops digits.2 fun c here => (ends c here).1]

theorem exponent_stops {exponent : Option Exponent} (strict : ∀ found ∈ exponent, found.IsStrict)
    {rest : List Char} (ends : EndsNumber rest) :
    ∀ c ∈ (exponentChars exponent ++ rest).head?, c.isDigit = false ∧ c ≠ '.' := by
  cases exponent with
  | none => exact fun c here => ⟨(ends c here).1, (ends c here).2.1⟩
  | some exponent =>
      intro c here
      obtain rfl := Option.some.inj here
      rcases (strict exponent rfl).letter with same | same <;> rw [same] <;> decide

namespace Decimal
variable {number : Decimal}

/-- What stands behind the whole part. -/
def behindWhole (number : Decimal) : List Char :=
  (number.fraction.map ('.' :: ·)).getD [] ++ exponentChars number.exponent

theorem chars_eq (number : Decimal) :
    number.chars = (if number.negative then ['-'] else []) ++ (number.whole ++ number.behindWhole) := by
  rw [chars, behindWhole, exponentChars]
  simp only [List.append_assoc]

theorem IsStrict.behind_stops (strict : number.IsStrict) {rest : List Char} (ends : EndsNumber rest) :
    ∀ c ∈ (number.behindWhole ++ rest).head?, c.isDigit = false := by
  rw [behindWhole, List.append_assoc]
  cases number.fraction with
  | none => exact fun c here => (exponent_stops strict.exponent ends c here).1
  | some digits =>
      intro c here
      obtain rfl := Option.some.inj here
      decide

/-- A number tells its sign by its first character, since the whole part is not without digits. -/
theorem IsStrict.head_chars (strict : number.IsStrict) (rest : List Char) :
    (number.chars ++ rest).head? = some '-' ↔ number.negative = true := by
  obtain ⟨first, others, shape⟩ := List.exists_cons_of_ne_nil strict.whole.1
  have digit : first.isDigit = true := strict.whole.2 first (by simp [shape])
  have hyphen : first ≠ '-' := by
    rintro rfl
    exact absurd digit (by decide)
  rw [chars_eq, shape]
  cases number.negative <;> simp [hyphen]

theorem drop_sign (number : Decimal) (rest : List Char) :
    (number.chars ++ rest).drop (if number.negative = true then 1 else 0) =
      number.whole ++ (number.behindWhole ++ rest) := by
  rw [chars_eq]
  cases number.negative <;> simp

/-- A number is read back in all its parts. -/
theorem front_chars (strict : number.IsStrict) {rest : List Char} (ends : EndsNumber rest) :
    front (number.chars ++ rest) = number := by
  have sign : ((number.chars ++ rest).head? == some '-') = number.negative := by
    rw [Bool.eq_iff_iff, beq_iff_eq, strict.head_chars]
  have unsigned : (if number.negative then (number.chars ++ rest).drop 1 else number.chars ++ rest) =
      number.whole ++ (number.behindWhole ++ rest) := by
    rw [← number.drop_sign rest]
    split <;> rfl
  have whole := takeWhile_stops strict.whole.2 (strict.behind_stops ends)
  unfold front
  simp only [sign, unsigned, whole, List.drop_left]
  rw [behindWhole, List.append_assoc]
  obtain ⟨negative, digits, fraction, exponent⟩ := number
  have read := exponent_front strict.exponent ends
  cases fraction with
  | some fraction =>
      have taken := takeWhile_stops (strict.fraction fraction rfl).2
        fun c here => (exponent_stops strict.exponent ends c here).1
      simp only [Option.map_some, Option.getD_some, List.cons_append, taken, List.drop_left, read]
  | none =>
      simp only [Option.map_none, Option.getD_none, List.nil_append]
      split
      · rename_i tail point
        exact absurd rfl (exponent_stops strict.exponent ends '.' (by rw [point]; rfl)).2
      · rw [read]

end Decimal

end Treegram.Json
