/-!
Quoted texts. `escape` writes what stands between the quotes, `unescape?` reads it
back, and `closing?` finds where a quoted text ends without reading it.
-/

namespace Treegram.Json

/-- The distance to just behind the closing quote. A backslash hides what follows it. -/
def closing? (count : Nat) : List Char → Option Nat
  | [] => none
  | '"' :: _ => some (count + 1)
  | '\\' :: _ :: rest => closing? (count + 2) rest
  | '\\' :: [] => none
  | _ :: rest => closing? (count + 1) rest

def hexDigit (value : Nat) : Char := if value < 10 then Char.ofNat (48 + value) else Char.ofNat (87 + value)

def hexValue? (c : Char) : Option Nat :=
  if c.isDigit then some (c.toNat - 48)
  else if 'a' ≤ c ∧ c ≤ 'f' then some (c.toNat - 87)
  else if 'A' ≤ c ∧ c ≤ 'F' then some (c.toNat - 55)
  else none

/-- The named escapes; the other control characters of ASCII, with the last one, go by number. -/
def escapeChar (c : Char) : List Char :=
  match c with
  | '"' => ['\\', '"']
  | '\\' => ['\\', '\\']
  | '\n' => ['\\', 'n']
  | '\r' => ['\\', 'r']
  | '\t' => ['\\', 't']
  | '\x08' => ['\\', 'b']
  | '\x0c' => ['\\', 'f']
  | c =>
      if c.toNat < 0x20 ∨ c.toNat = 0x7f then
        ['\\', 'u', '0', '0', hexDigit (c.toNat / 16), hexDigit (c.toNat % 16)]
      else [c]

def escape (text : List Char) : List Char := text.flatMap escapeChar

/-- Four hexadecimal digits, in place of the first of which a plus sign may stand. -/
def codeUnit? (digits : List Char) : Option Nat :=
  if digits.length = 4 then
    (if digits.head? = some '+' then digits.drop 1 else digits).foldlM
      (fun number c => (hexValue? c).map (number * 16 + ·)) 0
  else none

/-- What a backslash and its followers stand for, and how many followers it takes. A number
above the basic plane comes as two code units; one of the two alone stands for nothing. -/
def escaped? : List Char → Option (Char × Nat)
  | [] => none
  | 'u' :: rest =>
      match codeUnit? (rest.take 4) with
      | none => none
      | some unit =>
          if unit < 0xD800 ∨ 0xE000 ≤ unit then some (Char.ofNat unit, 5)
          else if unit < 0xDC00 then
            match rest.drop 4 with
            | '\\' :: 'u' :: tail =>
                match codeUnit? (tail.take 4) with
                | some low =>
                    if 0xDC00 ≤ low ∧ low < 0xE000 then
                      some (Char.ofNat (0x10000 + (unit - 0xD800) * 0x400 + (low - 0xDC00)), 11)
                    else none
                | none => none
            | _ => none
          else none
  | 'b' :: _ => some ('\x08', 1)
  | 'f' :: _ => some ('\x0c', 1)
  | 'n' :: _ => some ('\n', 1)
  | 'r' :: _ => some ('\r', 1)
  | 't' :: _ => some ('\t', 1)
  | c :: _ => some (c, 1)

/-- Reads what stands between the quotes. Raw control characters are let in. -/
def unescape? (text : List Char) : Option (List Char) :=
  match text with
  | [] => some []
  | c :: rest =>
      if c = '\\' then
        match escaped? rest with
        | none => none
        | some (meant, count) => (unescape? (rest.drop count)).map (meant :: ·)
      else (unescape? rest).map (c :: ·)
termination_by text.length
decreasing_by all_goals simp; try omega

end Treegram.Json
