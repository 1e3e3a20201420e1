import Treegram.Unicode.Ranges

/-!
Ranges of code points as bytes. The encoded characters of a range are spelled by a few
sequences of byte ranges: a sequence stands for all encodings whose bytes lie in its
ranges one by one.
-/

namespace Treegram.Unicode.Utf8

abbrev ByteRange := Nat × Nat

/-- The bytes of a code point. -/
def encode (c : Nat) : List Nat :=
  if c < 0x80 then [c]
  else if c < 0x800 then [0xC0 + c / 0x40, 0x80 + c % 0x40]
  else if c < 0x10000 then [0xE0 + c / 0x1000, 0x80 + c / 0x40 % 0x40, 0x80 + c % 0x40]
  else
    [0xF0 + c / 0x40000, 0x80 + c / 0x1000 % 0x40, 0x80 + c / 0x40 % 0x40, 0x80 + c % 0x40]

/-- Cuts a range so that each piece either lies in one block or is made of whole blocks, for blocks
of one size after the other. -/
def cut : List Nat → Nat → Nat → List (Nat × Nat)
  | [], first, last => [(first, last)]
  | size :: sizes, first, last =>
      let behind (first : Nat) : List (Nat × Nat) :=
        if first / size = last / size then [(first, last)]
        else if last % size = size - 1 then cut sizes first last
        else cut sizes first (last / size * size - 1) ++ [(last / size * size, last)]
      if first / size = last / size then [(first, last)]
      else if first % size = 0 then behind first
      else
        let blockEnd := first / size * size + size - 1
        (first, blockEnd) :: behind (blockEnd + 1)

/-- The code points of more than one byte, by the number of their bytes; surrogates have none. -/
def longSegments : List (Nat × Nat) :=
  [(0x80, 0x7FF), (0x800, 0xD7FF), (0xE000, 0xFFFF), (0x10000, 0x10FFFF)]

/-- The sequences of a range, in ascending order. -/
def sequences (range : Nat × Nat) : List (List ByteRange) :=
  let short := if range.1 < 0x80 then [[(range.1, min range.2 0x7F)]] else []
  short ++ longSegments.flatMap fun segment =>
    let first := max range.1 segment.1
    let last := min range.2 segment.2
    if last < first then []
    else (cut [0x40, 0x1000, 0x40000] first last).map fun piece =>
      (encode piece.1).zip (encode piece.2)

end Treegram.Unicode.Utf8
