import Treegram.Language.Symbol
import Treegram.Scan.RawString

/-!
Languages: the tables a parser works with, and what can be asked of them. Looking up a
symbol by name finds visible symbols only. A text is lexed by the token that matches
most of it; of equally long matches a literal comes before a pattern and an earlier
token before a later one.
-/

namespace Treegram

structure Language where
  name : String
  symbols : Array Symbol
  /-- Field names in order; the numbers of fields begin at 1. -/
  fields : Array String
  tokens : Array Token
  externals : List Nat
  extras : List Nat
  supertypes : List Nat
  startSymbol : Nat
  wordToken : Option Nat
  version : Nat
  /-- The state in which a scanner for the external tokens begins. -/
  scanner : Option RawString := none

/-- The version that languages are made for. -/
def languageVersion : Nat := 15

/-- The oldest version that can still be used. -/
def oldestVersion : Nat := 13

structure IncompatibleVersion where
  version : Nat
  deriving DecidableEq

def IncompatibleVersion.message (found : IncompatibleVersion) : String :=
  "incompatible language version " ++ toString found.version ++ ", expected "
    ++ toString oldestVersion ++ " to " ++ toString languageVersion

structure TokenMatch where
  symbol : Nat
  length : Nat
  deriving DecidableEq

namespace Language

def checkCompatible (language : Language) : Except IncompatibleVersion Unit :=
  if oldestVersion ≤ language.version ∧ language.version ≤ languageVersion then .ok ()
  else .error ⟨language.version⟩

def withScanner (language : Language) (state : RawString) : Language :=
  { language with scanner := some state }

def hasScanner (language : Language) : Bool := language.scanner.isSome

/-- A scanner in its first state. -/
def createScanner (language : Language) : Option RawString := language.scanner

def symbolCount (language : Language) : Nat := language.symbols.size

def tokenCount (language : Language) : Nat := language.tokens.size

def fieldCount (language : Language) : Nat := language.fields.size

def externalCount (language : Language) : Nat := language.externals.length

def symbol? (language : Language) (id : Nat) : Option Symbol := language.symbols[id]?

def symbolName? (language : Language) (id : Nat) : Option String := (language.symbol? id).map (·.name)

def symbolKind? (language : Language) (id : Nat) : Option SymbolKind :=
  (language.symbol? id).map (·.kind)

def isNamed (language : Language) (id : Nat) : Bool := (language.symbol? id).any (·.named)

def isVisible (language : Language) (id : Nat) : Bool := (language.symbol? id).any (·.visible)

def isSupertype (language : Language) (id : Nat) : Bool := (language.symbol? id).any (·.supertype)

/-- The first visible symbol of that name. -/
def symbolId? (language : Language) (name : String) (named : Bool) : Option Nat :=
  language.symbols.toList.findIdx? (·.shows name named)

def fieldName? (language : Language) (id : Nat) : Option String :=
  if id = 0 then none else language.fields[id - 1]?

/-- Fields past the last number of 16 bits have none. -/
def fieldId? (language : Language) (name : String) : Option Nat :=
  (language.fields.toList.findIdx? (· == name)).bind fun index =>
    if index + 1 < 65536 then some (index + 1) else none

/-- A match and whether it is one of a literal. -/
abbrev Candidate := TokenMatch × Bool

/-- Whether a later candidate takes the place of an earlier one. -/
def beats (later earlier : Candidate) : Bool :=
  decide (earlier.1.length < later.1.length)
    || (later.1.length == earlier.1.length && later.2 && !earlier.2)

def candidate? (text : List Char) (token : Token) : Option Candidate :=
  (token.matcher.length? text).map fun length => (⟨token.symbol, length⟩, token.matcher.isLiteral)

def better (best : Option Candidate) (later : Option Candidate) : Option Candidate :=
  match best, later with
  | none, later => later
  | best, none => best
  | some earlier, some later => some (if beats later earlier then later else earlier)

/-- The token at the front of a text, wherever a parser may stand. -/
def lex? (language : Language) (text : List Char) : Option TokenMatch :=
  (language.tokens.foldl (fun best token => better best (candidate? text token)) none).map (·.1)

/-- All tokens that match at the front of a text. -/
def tokenMatches (language : Language) (text : List Char) : List TokenMatch :=
  language.tokens.toList.filterMap fun token => (candidate? text token).map (·.1)

/-- A piece of a text: where it begins, how many bytes it takes, and its token if it is one. -/
structure Piece where
  position : Nat
  length : Nat
  symbol : Option Nat
  deriving DecidableEq

/-- Drops that many bytes, to the end of the character they end in. -/
def dropBytes : Nat → List Char → List Char
  | 0, text => text
  | _ + 1, [] => []
  | bytes + 1, c :: rest => dropBytes (bytes + 1 - c.utf8Size) rest

/-- Splits a text into tokens and, where no token matches, single characters. Every piece takes a
character at least, so as many turns as there are characters suffice. -/
def splitFrom (language : Language) : Nat → Nat → List Char → List Piece
  | 0, _, _ => []
  | _ + 1, _, [] => []
  | turns + 1, position, c :: rest =>
      match language.lex? (c :: rest) with
      | some found =>
          ⟨position, found.length, some found.symbol⟩ ::
            splitFrom language turns (position + found.length) (dropBytes found.length (c :: rest))
      | none =>
          ⟨position, c.utf8Size, none⟩ :: splitFrom language turns (position + c.utf8Size) rest

def split (language : Language) (text : List Char) : List Piece :=
  language.splitFrom text.length 0 text

end Language

end Treegram
