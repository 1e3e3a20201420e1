/-!
Numbers as they are spelled. Whole numbers are exact; a number with a fraction or an
exponent stands for the floating-point number of 64 bits nearest to it, and of those
only the whole ones are ever asked for.
-/

namespace Treegram.Json

/-- What stands behind the letter of an exponent. -/
structure Exponent where
  letter : Char
  sign : Option Char
  digits : List Char
  deriving DecidableEq

structure Decimal where
  negative : Bool := false
  whole : List Char
  fraction : Option (List Char) := none
  exponent : Option Exponent := none
  deriving DecidableEq

/-- The number that decimal digits spell. -/
def digitsValue (digits : List Char) : Nat :=
  digits.foldl (fun number c => number * 10 + (c.toNat - 48)) 0

/-- An integer with a sign or without, in digits and nothing else. -/
def spelledInteger? (text : List Char) : Option Int :=
  let digits := if text.head? = some '-' ∨ text.head? = some '+' then text.drop 1 else text
  if digits.isEmpty ∨ digits.any (!·.isDigit) then none
  else if text.head? = some '-' then some (-(digitsValue digits : Int))
  else some (digitsValue digits)

namespace Exponent

/-- The exponent at the front of a text. -/
def front? : List Char → Option Exponent
  | letter :: rest =>
      if letter = 'e' ∨ letter = 'E' then
        let sign := rest.head?.filter fun c => c == '+' || c == '-'
        some { letter, sign, digits := (rest.drop sign.toList.length).takeWhile Char.isDigit }
      else none
  | [] => none

def chars (exponent : Exponent) : List Char :=
  exponent.letter :: exponent.sign.toList ++ exponent.digits

def value (exponent : Exponent) : Int :=
  if exponent.sign = some '-' then -(digitsValue exponent.digits : Int) else digitsValue exponent.digits

end Exponent

namespace Decimal

def ofInt (number : Int) : Decimal :=
  { negative := decide (number < 0), whole := Nat.toDigits 10 number.natAbs }

def chars (number : Decimal) : List Char :=
  (if number.negative then ['-'] else []) ++ number.whole
    ++ (number.fraction.map ('.' :: ·)).getD []
    ++ (number.exponent.map Exponent.chars).getD []

/-- As much of a number as stands at the front of a text; any of its parts may be missing. -/
def front (text : List Char) : Decimal :=
  let negative := text.head? == some '-'
  let text := if negative then text.drop 1 else text
  let whole := text.takeWhile Char.isDigit
  match text.drop whole.length with
  | '.' :: rest =>
      let fraction := rest.takeWhile Char.isDigit
      { negative, whole, fraction := some fraction
        exponent := Exponent.front? (rest.drop fraction.length) }
  | rest => { negative, whole, exponent := Exponent.front? rest }

def isWhole (number : Decimal) : Bool := number.fraction.isNone && number.exponent.isNone

/-- Whether a whole number can be kept in so many bits, of which a negative one spends one on its
sign. -/
def fitsBits (bits : Nat) (number : Decimal) : Bool :=
  if number.negative then decide (digitsValue number.whole ≤ Nat.pow 2 (bits - 1))
  else decide (digitsValue number.whole < Nat.pow 2 bits)

/-- Digits have to stand before or behind the point and in an exponent. Whole numbers have at most
128 bits. -/
def isValid (number : Decimal) : Bool :=
  if number.isWhole then !number.whole.isEmpty && number.fitsBits 128
  else
    (!number.whole.isEmpty || !(number.fraction.getD []).isEmpty)
      && number.exponent.all (!·.digits.isEmpty)

/-- Whether a value of this size fits in a place of 64 bits. -/
def isNarrow (number : Decimal) : Bool := !number.isWhole || number.fitsBits 64

/-- The whole number nearest to a quotient; of two the even one. -/
def roundQuotient (num den : Nat) : Nat :=
  let low := num / den
  let twice := 2 * (num % den)
  if twice < den then low
  else if den < twice then low + 1
  else low + low % 2

/-- The floating-point number of 64 bits nearest to a positive quotient, as a whole number times a
power of two: 53 bits, and no power below the smallest one. -/
def nearestFloat (num den : Nat) : Nat × Int :=
  let scaled (power : Int) : Nat × Nat :=
    if 0 ≤ power then (num, den <<< power.toNat) else (num <<< (-power).toNat, den)
  let guess : Int := (Nat.log2 num : Int) - Nat.log2 den
  let top := if (scaled guess).1 < (scaled guess).2 then guess - 1 else guess
  let power := max (top - 52) (-1074)
  (roundQuotient (scaled power).1 (scaled power).2, power)

/-- The whole number that is `mantissa` times a power of two. -/
def wholeFloat? (mantissa : Nat) (power : Int) : Option Nat :=
  if 0 ≤ power then some (mantissa <<< power.toNat)
  else
    let den := 1 <<< (-power).toNat
    if mantissa % den = 0 then some (mantissa / den) else none

/-- The whole number without its sign, up to twenty digits; what is smaller than the smallest
floating-point number is zero. -/
def magnitude? (number : Decimal) : Option Nat :=
  if number.isWhole then some (digitsValue number.whole)
  else
    let fraction := number.fraction.getD []
    let coefficient := digitsValue (number.whole ++ fraction)
    let scale := ((number.exponent.map Exponent.value).getD 0) - fraction.length
    let digits := (Nat.toDigits 10 coefficient).length + scale
    if coefficient = 0 ∨ digits < -400 then some 0
    else if 20 < digits then none
    else
      let (mantissa, power) :=
        if 0 ≤ scale then nearestFloat (coefficient * Nat.pow 10 scale.toNat) 1
        else nearestFloat coefficient (Nat.pow 10 (-scale).toNat)
      wholeFloat? mantissa power

/-- The whole number that is meant, if it is one. -/
def integer? (number : Decimal) : Option Int :=
  number.magnitude?.map fun size => if number.negative then -(size : Int) else size

end Decimal

end Treegram.Json
