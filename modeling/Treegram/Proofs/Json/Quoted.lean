import Treegram.Json.Value

/-!
Quoted texts read back. What `escape` writes holds no bare quote and no bare backslash,
so `closing?` ends at the quote behind it and `unescape?` gives the text again.
-/

namespace Treegram.Json

theorem hexDigit_plain : ∀ value < 16, hexDigit value ≠ '"' ∧ hexDigit value ≠ '\\' := by decide

theorem hexValue_hexDigit : ∀ value < 16, hexValue? (hexDigit value) = some value := by decide

theorem closing_plain {c : Char} (quote : c ≠ '"') (slash : c ≠ '\\') (count : Nat)
    (rest : List Char) : closing? count (c :: rest) = closing? (count + 1) rest := by
  rw [closing?.eq_def]
  split <;> simp_all

theorem closing_hidden (c : Char) (count : Nat) (rest : List Char) :
    closing? count ('\\' :: c :: rest) = closing? (count + 2) rest := rfl

-- Only the numbered escapes are longer than a backslash with one follower.
theorem closing_escapeChar (c : Char) (count : Nat) (rest : List Char) :
    closing? count (escapeChar c ++ rest) = closing? (count + (escapeChar c).length) rest := by
  unfold escapeChar
  split
  case h_8 =>
    split
    case isTrue control =>
      have high := hexDigit_plain (c.toNat / 16) (by omega)
      have low := hexDigit_plain (c.toNat % 16) (by omega)
      simp only [List.cons_append, List.nil_append, closing_hidden]
      rw [closing_plain (by decide) (by decide), closing_plain (by decide) (by decide),
        closing_plain high.1 high.2, closing_plain low.1 low.2]
      rfl
    case isFalse =>
      exact closing_plain (by assumption) (by assumption) count rest
  all_goals rfl

theorem closing_escape (text : List Char) (count : Nat) (rest : List Char) :
    closing? count (escape text ++ '"' :: rest) = some (count + (escape text).length + 1) := by
  induction text generalizing count with
  | nil => rfl
  | cons c text ih =>
      have split : escape (c :: text) = escapeChar c ++ escape text := rfl
      rw [split, List.append_assoc, closing_escapeChar, ih, List.length_append, Nat.add_assoc count]

theorem unescape_plain {c : Char} (slash : c ≠ '\\') (rest : List Char) :
    unescape? (c :: rest) = (unescape? rest).map (c :: ·) := by
  rw [unescape?, if_neg slash]

theorem unescape_escaped {c : Char} {count : Nat} {followers : List Char}
    (meant : escaped? followers = some (c, count)) :
    unescape? ('\\' :: followers) = (unescape? (followers.drop count)).map (c :: ·) := by
  rw [unescape?, if_pos rfl, meant]

theorem unescape_named {c letter : Char} {rest : List Char}
    (meant : escaped? (letter :: rest) = some (c, 1)) :
    unescape? ('\\' :: letter :: rest) = (unescape? rest).map (c :: ·) :=
  unescape_escaped meant

theorem escaped_numbered {number : Nat} (small : number < 256) (rest : List Char) :
    escaped? ('u' :: '0' :: '0' :: hexDigit (number / 16) :: hexDigit (number % 16) :: rest) =
      some (Char.ofNat number, 5) := by
  have high := hexValue_hexDigit (number / 16) (by omega)
  have low := hexValue_hexDigit (number % 16) (by omega)
  have zero : hexValue? '0' = some 0 := rfl
  have whole : number / 16 * 16 + number % 16 = number := by omega
  have unit : codeUnit? ['0', '0', hexDigit (number / 16), hexDigit (number % 16)] = some number := by
    simp [codeUnit?, zero, high, low, whole]
  have basic : number < 0xD800 := by omega
  simp [escaped?, unit, basic]

theorem unescape_escapeChar (c : Char) (rest : List Char) :
    unescape? (escapeChar c ++ rest) = (unescape? rest).map (c :: ·) := by
  unfold escapeChar
  split
  case h_8 =>
    split
    case isTrue control =>
      have number := escaped_numbered (show c.toNat < 256 by omega) rest
      rw [Char.ofNat_toNat] at number
      exact unescape_escaped number
    case isFalse => exact unescape_plain (by assumption) rest
  all_goals exact unescape_named rfl

theorem unescape_escape (text : List Char) : unescape? (escape text) = some text := by
  induction text with
  | nil => rw [escape, List.flatMap_nil, unescape?]
  | cons c text ih =>
      have split : escape (c :: text) = escapeChar c ++ escape text := rfl
      rw [split, unescape_escapeChar, ih]
      rfl

theorem Value.chars_string (content : String) : (Value.string content).chars = quoted content := by
  rw [chars, write, List.reverseAux_eq, List.append_nil, List.reverse_reverse]

theorem Value.chars_integer (size : Int) : (Value.integer size).chars = (Decimal.ofInt size).chars := by
  rw [integer, chars, write, List.reverseAux_eq, List.append_nil, List.reverse_reverse]

/-- Different texts are written differently. -/
theorem escape_injective {left right : List Char} (same : escape left = escape right) :
    left = right := by
  have read := congrArg unescape? same
  rw [unescape_escape, unescape_escape] at read
  exact Option.some.inj read

end Treegram.Json
