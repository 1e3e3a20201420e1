import Treegram.Pattern.Bracket
import Treegram.Pattern.Footprint

/-!
Patterns from text. The text is cut into lexemes, and each lexeme acts on the stack of
open groups: it adds a piece to the innermost one, repeats its last piece, begins an
alternative, opens a group or closes one.
-/

namespace Treegram.Pattern

inductive Lexeme where
  /-- A piece that stands for itself, with the depth of its spelling. -/
  | piece (expr : Expr) (depth : Nat)
  | times (low : Nat) (high : Option Nat)
  | bar
  /-- A group; whether it is counted tells what it takes to lay it out, not what it matches. -/
  | openGroup (isCounted : Bool) (name : Option String) (flags : Flags)
  | setFlags (flags : Flags)
  | closeGroup

/-- One character of the text. -/
def literal (flags : Flags) (c : Char) : Expr :=
  .chars (if flags.unicode || c.toNat < 0x80 then flags.fold (.one c) else .one c)

def anyChar? (flags : Flags) : Option Expr :=
  let stops : Unicode.Ranges :=
    if flags.dotMatchesNewline then []
    else if flags.crlf then [(0x0A, 0x0A), (0x0D, 0x0D)]
    else [(0x0A, 0x0A)]
  if flags.unicode then some (.chars (.complement (.ranges stops))) else none

def lineStart (flags : Flags) : Assertion :=
  if !flags.multiLine then .textStart else if flags.crlf then .lineStartCrlf else .lineStart

def lineStop (flags : Flags) : Assertion :=
  if !flags.multiLine then .textStop else if flags.crlf then .lineStopCrlf else .lineStop

def Escape.expr? (flags : Flags) : Escape → Option Expr
  | .char c => some (literal flags c)
  | .byte c => if flags.unicode || c.toNat < 0x80 then some (literal flags c) else none
  | .shorthand kind negated => (kind.set? flags negated).map .chars
  | .property named negated => (propertySet? flags named negated).map .chars
  | .assertion make => some (.assert (make flags.unicode))

def takeDigits (flags : Flags) (turns : Nat) (number : Option Nat) (text : List Char) :
    Option Nat × List Char :=
  match turns, text with
  | turns + 1, c :: rest =>
      if c.isDigit then
        takeDigits flags turns (some (number.getD 0 * 10 + (c.toNat - 48))) (flags.skip rest)
      else (number, text)
  | _, _ => (number, text)

/-- A decimal number of 32 bits between blanks. -/
def decimal? (flags : Flags) (text : List Char) : Option (Nat × List Char) :=
  let blank (c : Char) := Unicode.isWhiteSpace c.toNat
  let text := text.dropWhile blank
  let (number, rest) := takeDigits flags text.length none text
  number.bind fun number =>
    if number < 4294967296 then some (number, rest.dropWhile blank) else none

/-- The counts of a repetition, read from behind the opening brace. -/
def counts? (flags : Flags) (text : List Char) : Option (Nat × Option Nat × List Char) :=
  (decimal? flags (flags.skip text)).bind fun (low, rest) =>
    match rest with
    | '\x7d' :: rest => some (low, some low, rest)
    | ',' :: rest =>
        match flags.skip rest with
        | '\x7d' :: rest => some (low, none, rest)
        | rest =>
            (decimal? flags rest).bind fun (high, rest) =>
              match rest with
              | '\x7d' :: rest => if low ≤ high then some (low, some high, rest) else none
              | _ => none
    | _ => none

def isNameStart (c : Char) : Bool := c == '_' || Unicode.isAlphabetic c.toNat

def isNamePart (c : Char) : Bool :=
  c == '_' || c == '.' || c == '[' || c == ']' || Unicode.isAlphabetic c.toNat
    || Unicode.isAmong Unicode.Category.numbers c.toNat

/-- The name of a group, read up to its closing bracket. -/
def groupName? (text : List Char) : Option (String × List Char) :=
  let name := text.takeWhile (· != '>')
  match name, text.drop name.length with
  | first :: others, '>' :: rest =>
      if isNameStart first && others.all isNamePart then some (String.ofList name, rest) else none
  | _, _ => none

/-- What an opening parenthesis begins: a group, a named group, a group with flags, or flags for
the rest of the group it stands in. Looking around is not supported. -/
def readOpening? (flags : Flags) (text : List Char) : Option (Lexeme × List Char) :=
  match flags.skip text with
  | '?' :: '=' :: _ | '?' :: '!' :: _ | '?' :: '<' :: '=' :: _ | '?' :: '<' :: '!' :: _ => none
  | '?' :: 'P' :: '<' :: rest | '?' :: '<' :: rest =>
      (groupName? rest).map fun (name, rest) => (.openGroup true (some name) flags, rest)
  | '?' :: rest =>
      let letters := rest.takeWhile fun c => c != ':' && c != ')'
      (flags.change? letters).bind fun inner =>
        match rest.drop letters.length with
        | ':' :: rest => some (.openGroup false none inner, rest)
        | ')' :: rest => if letters.isEmpty then none else some (.setFlags inner, rest)
        | _ => none
  | rest => some (.openGroup true none flags, rest)

/-- A question mark behind a repetition says which matches to prefer, which is all one here. -/
def dropLazy : List Char → List Char
  | '?' :: rest => rest
  | rest => rest

/-- The lexeme at the front of a text that is not empty. -/
def Lexeme.read? (flags : Flags) : List Char → Option (Lexeme × List Char)
  | [] => none
  | c :: rest =>
      match c with
      | '(' => readOpening? flags rest
      | ')' => some (.closeGroup, rest)
      | '|' => some (.bar, rest)
      | '[' =>
          (readClass? flags rest).map fun (read, rest) => (.piece (.chars read.set) read.depth, rest)
      | '?' => some (.times 0 (some 1), dropLazy rest)
      | '*' => some (.times 0 none, dropLazy rest)
      | '+' => some (.times 1 none, dropLazy rest)
      | '\x7b' =>
          (counts? flags rest).map fun (low, high, rest) =>
            (.times low high, dropLazy (flags.skip rest))
      | '\\' =>
          (Escape.read? flags rest).bind fun (escape, rest) =>
            (escape.expr? flags).map fun expr => (.piece expr 0, rest)
      | '.' => (anyChar? flags).map fun expr => (.piece expr 0, rest)
      | '^' => some (.piece (.assert (lineStart flags)) 0, rest)
      | '$' => some (.piece (.assert (lineStop flags)) 0, rest)
      | c => some (.piece (literal flags c) 0, rest)

/-- A finished part of a pattern. Flags that are set take a place but cannot be repeated. -/
structure Piece where
  expr : Expr
  depth : Nat := 0
  isFlags : Bool := false

/-- A group that is still open. Later pieces and alternatives come first. -/
structure Group where
  flags : Flags
  number : Option Nat := none
  alternatives : List Piece := []
  pieces : List Piece := []

def deepest (pieces : List Piece) : Nat := (pieces.map (·.depth)).foldl max 0

/-- The pieces one after the other. -/
def joinPieces : List Piece → Piece
  | [] => { expr := .nothing }
  | [only] => only
  | pieces =>
      { expr := .sequence (pieces.reverse.map (·.expr)), depth := deepest pieces + 1 }

/-- The last alternative is the one that is still being read. -/
def Group.content (group : Group) : Piece :=
  let last := joinPieces group.pieces
  match group.alternatives with
  | [] => last
  | others =>
      let all := last :: others
      { expr := .choice (all.reverse.map (·.expr)), depth := deepest all + 1 }

/-- A group that is closed is a piece of the group around it. -/
def Group.close (group : Group) : Piece :=
  let inside := group.content
  { expr := (group.number.map (Expr.group · inside.expr)).getD inside.expr
    depth := inside.depth + 1 }

/-- What is too much. The standard limits are the ones that count; others tell what a pattern
would mean if it were let in. -/
structure Limits where
  /-- How deep a pattern may be nested. -/
  depth : Nat := 250
  /-- How much room a pattern may take in either direction. -/
  room : Nat := 10 * 1024 * 1024

def Limits.standard : Limits := {}

/-- Whether a pattern keeps to the limits. -/
def Limits.admit (limits : Limits) (piece : Piece) : Bool :=
  decide (piece.depth ≤ limits.depth) &&
    (let footprint := piece.expr.footprint
     decide (footprint.forward ≤ limits.room ∧ footprint.backward ≤ limits.room))

/-- The groups that are open, the innermost one apart, and the names that groups have taken. -/
structure Parse where
  group : Group
  outer : List Group := []
  names : List String := []
  /-- The number of groups that have been counted. -/
  counted : Nat := 0

namespace Parse

def add (parse : Parse) (piece : Piece) : Parse :=
  { parse with group := { parse.group with pieces := piece :: parse.group.pieces } }

def step? (parse : Parse) : Lexeme → Option Parse
  | .piece expr depth => some (parse.add { expr, depth })
  | .times low high =>
      match parse.group.pieces with
      | [] => none
      | piece :: before =>
          if piece.isFlags then none
          else
            let repeated : Piece :=
              { expr := piece.expr.repeated low high, depth := piece.depth + 1 }
            some { parse with group := { parse.group with pieces := repeated :: before } }
  | .bar =>
      let group := parse.group
      some { parse with group :=
        { group with alternatives := joinPieces group.pieces :: group.alternatives, pieces := [] } }
  | .openGroup isCounted name flags =>
      let counted := if isCounted then parse.counted + 1 else parse.counted
      let number := if isCounted then some counted else none
      if name.any parse.names.contains then none
      else
        some { group := { flags, number }, outer := parse.group :: parse.outer, counted
               names := name.toList ++ parse.names }
  | .setFlags flags =>
      let marked := parse.add { expr := .nothing, isFlags := true }
      some { marked with group := { marked.group with flags } }
  | .closeGroup =>
      match parse.outer with
      | [] => none
      | group :: outer => some ({ parse with group, outer }.add parse.group.close)

/-- Reads on to the end of the text. Every turn takes a character at least. -/
def run? (turns : Nat) (parse : Parse) (text : List Char) : Option Parse :=
  match turns with
  | 0 => none
  | turns + 1 =>
      match parse.group.flags.skip text with
      | [] => some parse
      | c :: rest =>
          (Lexeme.read? parse.group.flags (c :: rest)).bind fun (lexeme, rest) =>
            (parse.step? lexeme).bind fun parse => run? turns parse rest

/-- The whole pattern, if no group is left open. -/
def finish? (parse : Parse) : Option Piece :=
  if parse.outer.isEmpty then some parse.group.content else none

end Parse

/-- Reads a pattern. -/
def Piece.read? (source : List Char) : Option Piece :=
  (Parse.run? (source.length + 1) { group := { flags := {} } } source).bind Parse.finish?

/-- What a pattern stands for, if it keeps to the limits. -/
def Term.read? (limits : Limits) (source : List Char) : Option Term :=
  (Piece.read? source).bind fun piece => if limits.admit piece then some piece.expr.term else none

end Treegram.Pattern
