import Treegram.Pattern.Escape

/-!
Bracketed classes. The brackets and operators that are still open form a stack; each
turn reads one item, opens or closes a bracket, or takes an operator. Operators bind
to the left and all alike, and weaker than standing side by side.
-/

namespace Treegram.Pattern

open Unicode (Property)

/-- A set with the depth of its spelling. -/
structure ClassPiece where
  set : CharSet
  depth : Nat := 0

inductive ClassOperator where
  | both
  | without
  | oneOf
  deriving DecidableEq

inductive OpenClass where
  /-- An open bracket, with the items before it. -/
  | bracket (before : List ClassPiece) (negated : Bool)
  /-- An operator that waits for its right side. -/
  | operator (kind : ClassOperator) (left : ClassPiece)

namespace Flags

/-- A set under these flags: with the other cases where case does not count. -/
def fold (flags : Flags) (set : CharSet) : CharSet :=
  if !flags.foldCase then set else if flags.unicode then .folded set else .foldedAscii set

/-- Outside of Unicode mode a complement would split characters, so there is none. -/
def foldAndNegate? (flags : Flags) (negated : Bool) (set : CharSet) : Option CharSet :=
  if !negated then some (flags.fold set)
  else if flags.unicode then some (.complement (flags.fold set))
  else none

end Flags

def Shorthand.unicodeSet : Shorthand → CharSet
  | digit => .property (.among [.decimalNumber])
  | space => .property .whiteSpace
  | word => .property .word

def Shorthand.asciiSet : Shorthand → CharSet
  | digit => .ranges [(0x30, 0x39)]
  | space => .ranges [(0x09, 0x0D), (0x20, 0x20)]
  | word => asciiWord

def Shorthand.set? (flags : Flags) (kind : Shorthand) (negated : Bool) : Option CharSet :=
  if flags.unicode then
    some (if negated then .complement kind.unicodeSet else kind.unicodeSet)
  else if negated then none
  else some kind.asciiSet

def propertySet? (flags : Flags) (property : Property) (negated : Bool) : Option CharSet :=
  if flags.unicode then flags.foldAndNegate? negated (.property property) else none

/-- The classes that have a name between colons, all of them in ASCII. -/
def namedClass? : String → Option CharSet
  | "alnum" => some (.ranges [(0x30, 0x39), (0x41, 0x5A), (0x61, 0x7A)])
  | "alpha" => some (.ranges [(0x41, 0x5A), (0x61, 0x7A)])
  | "ascii" => some (.ranges [(0x00, 0x7F)])
  | "blank" => some (.ranges [(0x09, 0x09), (0x20, 0x20)])
  | "cntrl" => some (.ranges [(0x00, 0x1F), (0x7F, 0x7F)])
  | "digit" => some (.ranges [(0x30, 0x39)])
  | "graph" => some (.ranges [(0x21, 0x7E)])
  | "lower" => some (.ranges [(0x61, 0x7A)])
  | "print" => some (.ranges [(0x20, 0x7E)])
  | "punct" => some (.ranges [(0x21, 0x2F), (0x3A, 0x40), (0x5B, 0x60), (0x7B, 0x7E)])
  | "space" => some (.ranges [(0x09, 0x0D), (0x20, 0x20)])
  | "upper" => some (.ranges [(0x41, 0x5A)])
  | "word" => some asciiWord
  | "xdigit" => some (.ranges [(0x30, 0x39), (0x41, 0x46), (0x61, 0x66)])
  | _ => none

/-- A named class, read from behind its opening bracket; whatever does not look like one is an
ordinary bracket. -/
def readNamedClass? (text : List Char) : Option (Bool × CharSet × List Char) :=
  match text with
  | ':' :: rest =>
      let negated := rest.head? == some '^'
      let rest := if negated then rest.drop 1 else rest
      let name := rest.takeWhile (· != ':')
      match rest.drop name.length with
      | ':' :: ']' :: rest =>
          (namedClass? (String.ofList name)).map fun set => (negated, set, rest)
      | _ => none
  | _ => none

/-- Items side by side. The later items come first in the list. -/
def joinItems : List ClassPiece → ClassPiece
  | [] => { set := .none }
  | [only] => only
  | items =>
      { set := (items.reverse.map (·.set)).foldl .union .none
        depth := (items.map (·.depth)).foldl max 0 + 1 }

def ClassOperator.apply : ClassOperator → CharSet → CharSet → CharSet
  | both => .inter
  | without => .minus
  | oneOf => .either

/-- Gives its right side to the operator that waits for it, if one does. -/
def settle (flags : Flags) (right : ClassPiece) : List OpenClass → ClassPiece × List OpenClass
  | .operator kind left :: below =>
      ({ set := kind.apply (flags.fold left.set) (flags.fold right.set)
         depth := max left.depth right.depth + 1 }, below)
  | stack => (right, stack)

/-- Hyphens right behind the opening stand for themselves. -/
def leadingHyphens (flags : Flags) (turns : Nat) (items : List ClassPiece) (text : List Char) :
    List ClassPiece × List Char :=
  match turns, text with
  | turns + 1, '-' :: rest =>
      leadingHyphens flags turns ({ set := .one '-' } :: items) (flags.skip rest)
  | _, _ => (items, text)

/-- What stands right behind an opening bracket: the negation, hyphens, a closing bracket that
closes nothing. -/
def openBracket (flags : Flags) (text : List Char) : Bool × List ClassPiece × List Char :=
  let text := flags.skip text
  let negated := text.head? == some '^'
  let text := if negated then flags.skip (text.drop 1) else text
  match leadingHyphens flags text.length [] text with
  | ([], ']' :: rest) => (negated, [{ set := .one ']' }], flags.skip rest)
  | (items, rest) => (negated, items, rest)

inductive ClassItem where
  | char (c : Char)
  | set (set : CharSet)

def Escape.classItem? (flags : Flags) : Escape → Option ClassItem
  | .char c | .byte c => if flags.unicode || c.toNat < 0x80 then some (.char c) else none
  | .shorthand kind negated => (kind.set? flags negated).map .set
  | .property named negated => (propertySet? flags named negated).map .set
  | .assertion _ => none

def ClassItem.read? (flags : Flags) : List Char → Option (ClassItem × List Char)
  | [] => none
  | '\\' :: rest =>
      (Escape.read? flags rest).bind fun (escape, rest) => (escape.classItem? flags).map (·, rest)
  | c :: rest => if flags.unicode || c.toNat < 0x80 then some (.char c, rest) else none

def ClassItem.toSet : ClassItem → CharSet
  | .char c => .one c
  | .set held => held

/-- One item or a range of characters. A hyphen in front of another one or of the closing bracket
makes no range. -/
def readClassRange? (flags : Flags) (text : List Char) : Option (CharSet × List Char) :=
  (ClassItem.read? flags text).bind fun (first, rest) =>
    let rest := flags.skip rest
    match rest with
    | '-' :: behind =>
        let behind := flags.skip behind
        if behind.head? == some ']' || behind.head? == some '-' then some (first.toSet, rest)
        else
          (ClassItem.read? flags behind).bind fun (last, rest) =>
            match first, last with
            | .char low, .char high =>
                if low ≤ high then some (.ranges [(low.toNat, high.toNat)], rest) else none
            | _, _ => none
    | _ => some (first.toSet, rest)

/-- Reads on inside of a bracket: `items` stand in the innermost one, and `stack` holds the
innermost one first. -/
def readClassFrom? (flags : Flags) (turns : Nat) (stack : List OpenClass) (items : List ClassPiece)
    (text : List Char) : Option (ClassPiece × List Char) :=
  match turns with
  | 0 => none
  | turns + 1 =>
      let operator (kind : ClassOperator) (rest : List Char) :=
        let (left, stack) := settle flags (joinItems items) stack
        readClassFrom? flags turns (.operator kind left :: stack) [] rest
      match flags.skip text with
      | [] => none
      | '[' :: rest =>
          match readNamedClass? rest with
          | some (negated, set, rest) =>
              (flags.foldAndNegate? negated set).bind fun set =>
                readClassFrom? flags turns stack ({ set } :: items) rest
          | none =>
              let (negated, fresh, rest) := openBracket flags rest
              readClassFrom? flags turns (.bracket items negated :: stack) fresh rest
      | ']' :: rest =>
          let (inside, stack) := settle flags (joinItems items) stack
          match stack with
          | .bracket before negated :: below =>
              (flags.foldAndNegate? negated inside.set).bind fun set =>
                let piece : ClassPiece := { set, depth := inside.depth + 1 }
                if below.isEmpty then some (piece, rest)
                else readClassFrom? flags turns below (piece :: before) rest
          | _ => none
      | '&' :: '&' :: rest => operator .both rest
      | '-' :: '-' :: rest => operator .without rest
      | '~' :: '~' :: rest => operator .oneOf rest
      | text =>
          (readClassRange? flags text).bind fun (set, rest) =>
            readClassFrom? flags turns stack ({ set } :: items) rest

/-- Reads a class from behind its opening bracket. Every turn but the last takes a character. -/
def readClass? (flags : Flags) (text : List Char) : Option (ClassPiece × List Char) :=
  let (negated, items, rest) := openBracket flags text
  readClassFrom? flags (text.length + 1) [.bracket [] negated] items rest

end Treegram.Pattern
