import Treegram.Pattern.Flags
import Treegram.Pattern.Term

/-!
Escapes: what a backslash and its followers stand for. Each reader takes the text
behind what is already known and gives the rest behind what it has read.
-/

namespace Treegram.Pattern

open Unicode (Property)

/-- The shorthand classes. -/
inductive Shorthand where
  | digit
  | space
  | word
  deriving DecidableEq

inductive Escape where
  | char (c : Char)
  /-- A number of two digits, which outside of Unicode mode names a byte. -/
  | byte (c : Char)
  | shorthand (kind : Shorthand) (negated : Bool)
  | property (property : Property) (negated : Bool)
  | assertion (assertion : Bool → Assertion)

/-- The characters that mean something of their own. -/
def isMeta (c : Char) : Bool :=
  ['\\', '.', '+', '*', '?', '(', ')', '|', '[', ']', '\x7b', '\x7d', '^', '$', '#', '&', '-', '~'].contains c

/-- The ASCII characters that an escape leaves as they are. -/
def isPlainEscape (c : Char) : Bool :=
  isMeta c || (c.toNat < 0x80 && !c.isAlphanum && c != '<' && c != '>')

def hexDigit? (c : Char) : Option Nat :=
  if c.isDigit then some (c.toNat - 48)
  else if 'a' ≤ c ∧ c ≤ 'f' then some (c.toNat - 87)
  else if 'A' ≤ c ∧ c ≤ 'F' then some (c.toNat - 55)
  else none

/-- The character of a code point; surrogates and numbers that are too large have none. -/
def scalar? (number : Nat) : Option Char :=
  if valid : number.isValidChar then some (Char.ofNatAux number valid) else none

/-- Exactly `count` hexadecimal digits. -/
def fixedHex? (flags : Flags) : Nat → Nat → List Char → Option (Nat × List Char)
  | 0, number, text => some (number, text)
  | count + 1, number, text =>
      match text with
      | [] => none
      | c :: rest =>
          (hexDigit? c).bind fun digit => fixedHex? flags count (number * 16 + digit) (flags.skip rest)

/-- Hexadecimal digits, one at least, up to a closing brace. -/
def bracedHex? (flags : Flags) (turns : Nat) (number : Option Nat) (text : List Char) :
    Option (Nat × List Char) :=
  match turns, text with
  | turns + 1, c :: rest =>
      if c = '\x7d' then number.map (·, flags.skip rest)
      else (hexDigit? c).bind fun digit =>
        bracedHex? flags turns (some (number.getD 0 * 16 + digit)) (flags.skip rest)
  | _, _ => none

/-- The number behind `x`, `u` or `U`, which want `count` digits or any number of them in braces. -/
def hexEscape? (flags : Flags) (count : Nat) (text : List Char) : Option (Escape × List Char) :=
  match flags.skip text with
  | '\x7b' :: rest =>
      (bracedHex? flags (rest.length + 1) none (flags.skip rest)).bind fun (number, rest) =>
        (scalar? number).map fun c => (.char c, rest)
  | rest =>
      (fixedHex? flags count 0 rest).bind fun (number, rest) =>
        (scalar? number).map fun c => (if count = 2 then .byte c else .char c, rest)

/-- A property by name, or by key and value around a colon, an equals sign or an unequal sign. -/
def namedProperty? (name : List Char) (negated : Bool) : Option Escape :=
  let beforeAny (stops : List Char) := name.takeWhile fun c => !stops.contains c
  let keyed (key : List Char) (length : Nat) (negated : Bool) : Option Escape :=
    (Property.findKeyed? (String.ofList key) (String.ofList (name.drop (key.length + length)))).map
      (.property · negated)
  let unequal := (List.range name.length).find? fun i => (name.drop i).take 2 == ['!', '=']
  match unequal with
  | some i => keyed (name.take i) 2 (!negated)
  | none =>
      if name.contains ':' then keyed (beforeAny [':']) 1 negated
      else if name.contains '=' then keyed (beforeAny ['=']) 1 negated
      else (Property.find? (String.ofList name)).map (.property · negated)

/-- The characters up to a closing brace and the rest behind the brace. -/
def untilBrace? (flags : Flags) (turns : Nat) (name text : List Char) :
    Option (List Char × List Char) :=
  match turns, text with
  | turns + 1, c :: rest =>
      if c = '\x7d' then some (name.reverse, rest)
      else untilBrace? flags turns (c :: name) (flags.skip rest)
  | _, _ => none

def propertyEscape? (flags : Flags) (negated : Bool) (text : List Char) :
    Option (Escape × List Char) :=
  match flags.skip text with
  | [] => none
  | c :: rest =>
      if c = '\x7b' then
        (untilBrace? flags (rest.length + 1) [] (flags.skip rest)).bind fun (name, rest) =>
          (namedProperty? name negated).map (·, rest)
      else if c = '\\' then none
      else
        (Property.find? (String.singleton c)).map fun property =>
          (.property property negated, flags.skip rest)

def isEdgeLetter (c : Char) : Bool := c.isAlpha || c == '-'

/-- The name in the braces behind a word boundary; the brace may also begin a repetition. -/
def edgeName? (flags : Flags) (text : List Char) : Option (Option WordEdge × List Char) :=
  match text with
  | '\x7b' :: rest =>
      match flags.skip rest with
      | [] => none
      | c :: _ =>
          if !isEdgeLetter c then some (none, text)
          else
            (untilBrace? flags (rest.length + 1) [] (flags.skip rest)).bind fun (name, rest) =>
              match String.ofList name with
              | "start" => some (some .start, rest)
              | "end" => some (some .stop, rest)
              | "start-half" => some (some .startHalf, rest)
              | "end-half" => some (some .stopHalf, rest)
              | _ => none
  | _ => some (none, text)

/-- Letters, digits and the underscore of ASCII. -/
def asciiWord : CharSet := .ranges [(0x30, 0x39), (0x41, 0x5A), (0x5F, 0x5F), (0x61, 0x7A)]

def wordEdge (edge : WordEdge) (unicode : Bool) : Assertion :=
  .word edge (if unicode then .property .word else asciiWord)

/-- Reads an escape from behind its backslash. -/
def Escape.read? (flags : Flags) : List Char → Option (Escape × List Char)
  | [] => none
  | c :: rest =>
      match c with
      | 'x' => hexEscape? flags 2 rest
      | 'u' => hexEscape? flags 4 rest
      | 'U' => hexEscape? flags 8 rest
      | 'p' => propertyEscape? flags false rest
      | 'P' => propertyEscape? flags true rest
      | 'd' => some (.shorthand .digit false, rest)
      | 'D' => some (.shorthand .digit true, rest)
      | 's' => some (.shorthand .space false, rest)
      | 'S' => some (.shorthand .space true, rest)
      | 'w' => some (.shorthand .word false, rest)
      | 'W' => some (.shorthand .word true, rest)
      | 'a' => some (.char '\x07', rest)
      | 'f' => some (.char '\x0c', rest)
      | 't' => some (.char '\t', rest)
      | 'n' => some (.char '\n', rest)
      | 'r' => some (.char '\r', rest)
      | 'v' => some (.char '\x0b', rest)
      | 'A' => some (.assertion fun _ => .textStart, rest)
      | 'z' => some (.assertion fun _ => .textStop, rest)
      | 'B' => some (.assertion (wordEdge .noBoundary), rest)
      | '<' => some (.assertion (wordEdge .start), rest)
      | '>' => some (.assertion (wordEdge .stop), rest)
      | 'b' =>
          (edgeName? flags rest).map fun (edge, rest) =>
            (.assertion (wordEdge (edge.getD .boundary)), rest)
      | c => if isPlainEscape c then some (.char c, rest) else none

end Treegram.Pattern
