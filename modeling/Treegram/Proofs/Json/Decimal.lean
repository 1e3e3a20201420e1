import Treegram.Json.Decimal
import Treegram.Proofs.Json.Tagging

/-!
Integers as they are written. The digits of an integer are read back as far as they go,
since nothing that ends a value goes on a number.
-/

namespace Treegram.Json

theorem digitsValue_toDigits (number : Nat) : digitsValue (Nat.toDigits 10 number) = number := by
  have same := @Nat.ofDigitChars_ten_toDigits number
  rw [Nat.ofDigitChars_eq_foldl] at same
  simpa [digitsValue, Nat.mul_comm] using same

theorem toDigits_digits (number : Nat) : ∀ c ∈ Nat.toDigits 10 number, c.isDigit = true :=
  fun _ member => Nat.isDigit_of_mem_toDigits (by decide) (by decide) member

theorem EndsValue.notDigit {behind : List Char} (ends : EndsValue behind) :
    behind.takeWhile Char.isDigit = [] := by
  rcases ends with rfl | ⟨mark, rest, rfl, rfl | rfl | rfl⟩ <;> rfl

theorem takeWhile_digits {digits behind : List Char} (all : ∀ c ∈ digits, c.isDigit = true)
    (ends : EndsValue behind) : (digits ++ behind).takeWhile Char.isDigit = digits := by
  rw [List.takeWhile_append_of_pos all, ends.notDigit, List.append_nil]

namespace Decimal

def sign (number : Int) : List Char := if number < 0 then ['-'] else []

theorem chars_ofInt (number : Int) :
    (ofInt number).chars = sign number ++ Nat.toDigits 10 number.natAbs := by
  simp [ofInt, chars, sign]

theorem head_digits (number : Nat) (rest : List Char) :
    ∃ c, (Nat.toDigits 10 number ++ rest).head? = some c ∧ c.isDigit = true := by
  cases found : Nat.toDigits 10 number with
  | nil => exact absurd found Nat.toDigits_ne_nil
  | cons c digits => exact ⟨c, rfl, toDigits_digits number c (by simp [found])⟩

theorem head_hyphen (number : Nat) (rest : List Char) :
    (Nat.toDigits 10 number ++ rest).head? ≠ some '-' := by
  obtain ⟨c, head, digit⟩ := head_digits number rest
  rw [head]
  rintro ⟨⟩
  exact absurd digit (by decide)

theorem front_signed {digits rest : List Char} (all : ∀ c ∈ digits, c.isDigit = true)
    (ends : EndsValue rest) :
    front ('-' :: (digits ++ rest)) = { negative := true, whole := digits } := by
  have taken := takeWhile_digits all ends
  unfold front
  simp only [List.head?_cons, beq_self_eq_true, if_true, List.drop_succ_cons, List.drop_zero, taken,
    List.drop_left]
  rcases ends with rfl | ⟨mark, rest, rfl, rfl | rfl | rfl⟩ <;> rfl

theorem front_unsigned {digits rest : List Char} (all : ∀ c ∈ digits, c.isDigit = true)
    (hyphen : (digits ++ rest).head? ≠ some '-') (ends : EndsValue rest) :
    front (digits ++ rest) = { whole := digits } := by
  have taken := takeWhile_digits all ends
  unfold front
  rw [beq_eq_false_iff_ne.mpr hyphen]
  simp only [Bool.false_eq_true, if_false, taken, List.drop_left]
  rcases ends with rfl | ⟨mark, rest, rfl, rfl | rfl | rfl⟩ <;> rfl

theorem front_ofInt (number : Int) {rest : List Char} (ends : EndsValue rest) :
    front ((ofInt number).chars ++ rest) = ofInt number := by
  have digits := toDigits_digits number.natAbs
  rw [chars_ofInt, sign]
  by_cases negative : number < 0
  · rw [if_pos negative]
    simpa [ofInt, negative] using front_signed digits ends
  · rw [if_neg negative]
    simpa [ofInt, negative] using
      front_unsigned digits (head_hyphen number.natAbs rest) ends

theorem integer_ofInt (number : Int) : (ofInt number).integer? = some number := by
  have size : (ofInt number).magnitude? = some number.natAbs := by
    rw [magnitude?, if_pos (by rfl)]
    exact congrArg some (digitsValue_toDigits number.natAbs)
  rw [integer?, size]
  show some (if decide (number < 0) = true then -(number.natAbs : Int) else number.natAbs) = some number
  congr 1
  simp only [decide_eq_true_eq]
  split <;> omega

/-- The integers of 32 bits, which is what a level is. -/
theorem valid_ofInt {number : Int} (low : -2147483648 ≤ number) (high : number < 2147483648) :
    (ofInt number).isValid = true := by
  have whole : (ofInt number).isWhole = true := rfl
  have digits : (ofInt number).whole.isEmpty = false := by
    simp [ofInt, Nat.toDigits_ne_nil]
  have value : digitsValue (ofInt number).whole = number.natAbs :=
    digitsValue_toDigits number.natAbs
  have room : number.natAbs ≤ 2147483648 := by omega
  have fits : (ofInt number).fitsBits 128 = true := by
    rw [fitsBits, value]
    split
    · exact decide_eq_true (Nat.le_trans room (by decide))
    · exact decide_eq_true (Nat.lt_of_le_of_lt room (by decide))
  rw [isValid, if_pos whole, digits, fits]
  rfl

end Decimal

namespace Scalar

theorem integerLength_signed {digits rest : List Char} (all : ∀ c ∈ digits, c.isDigit = true)
    (any : digits ≠ []) (ends : EndsValue rest) :
    integerLength? ('-' :: (digits ++ rest)) = some ('-' :: digits).length := by
  have taken := takeWhile_digits all ends
  have length : digits.length ≠ 0 := fun none => any (List.length_eq_zero_iff.mp none)
  simp only [integerLength?, List.head?_cons, if_true, List.drop_succ_cons, List.drop_zero, taken]
  rcases ends with rfl | ⟨mark, rest, rfl, rfl | rfl | rfl⟩ <;>
    simp [length, Nat.add_comm 1]

theorem integerLength_unsigned {digits rest : List Char} (all : ∀ c ∈ digits, c.isDigit = true)
    (any : digits ≠ []) (hyphen : (digits ++ rest).head? ≠ some '-') (ends : EndsValue rest) :
    integerLength? (digits ++ rest) = some digits.length := by
  have taken := takeWhile_digits all ends
  have length : digits.length ≠ 0 := fun none => any (List.length_eq_zero_iff.mp none)
  simp only [integerLength?, if_neg hyphen, List.drop_zero, taken]
  rcases ends with rfl | ⟨mark, rest, rfl, rfl | rfl | rfl⟩ <;>
    simp [length]

theorem integerLength_ofInt (number : Int) {rest : List Char} (ends : EndsValue rest) :
    integerLength? ((Decimal.ofInt number).chars ++ rest) =
      some (Decimal.ofInt number).chars.length := by
  have digits := toDigits_digits number.natAbs
  rw [Decimal.chars_ofInt, Decimal.sign]
  by_cases negative : number < 0
  · rw [if_pos negative]
    exact integerLength_signed digits Nat.toDigits_ne_nil ends
  · rw [if_neg negative]
    exact integerLength_unsigned digits Nat.toDigits_ne_nil
      (Decimal.head_hyphen number.natAbs rest) ends

/-- An integer begins neither like a quoted text nor with a blank. -/
theorem start_ofInt (number : Int) (rest : List Char) :
    quotedLength? ((Decimal.ofInt number).chars ++ rest) = none ∧
      blanks ((Decimal.ofInt number).chars ++ rest) = 0 := by
  rw [Decimal.chars_ofInt, Decimal.sign]
  by_cases negative : number < 0
  · rw [if_pos negative]
    exact ⟨rfl, rfl⟩
  · rw [if_neg negative, List.nil_append]
    obtain ⟨c, head, digit⟩ := Decimal.head_digits number.natAbs rest
    obtain ⟨tail, shape⟩ := List.head?_eq_some_iff.mp head
    have quote : c ≠ '"' := by
      rintro rfl
      exact absurd digit (by decide)
    have blank : isBlank c = false := by
      -- A digit is none of the five blanks.
      cases found : isBlank c with
      | false => rfl
      | true =>
          simp only [isBlank, Bool.or_eq_true, beq_iff_eq] at found
          rcases found with (((rfl | rfl) | rfl) | rfl) | rfl <;> exact absurd digit (by decide)
    rw [shape]
    refine ⟨?_, by simp [blanks, blank]⟩
    unfold quotedLength?
    split
    · next same => exact absurd (List.cons.inj same).1 quote
    · rfl

end Scalar

end Treegram.Json
