import Treegram.Unicode.Alphabetic
import Treegram.Unicode.Boundaries
import Treegram.Unicode.Letter
import Treegram.Unicode.Mark
import Treegram.Unicode.Number
import Treegram.Unicode.Punctuation
import Treegram.Unicode.Separator
import Treegram.Unicode.Symbol

/-!
Properties of characters that a pattern can name: the general categories, one by one
and in groups, and a few sets made from them. Names are matched loosely: case, blanks,
hyphens, underscores and a leading `is` do not count.
-/

namespace Treegram.Unicode

inductive Category where
  | uppercaseLetter | lowercaseLetter | titlecaseLetter | modifierLetter | otherLetter
  | nonspacingMark | spacingMark | enclosingMark
  | decimalNumber | letterNumber | otherNumber
  | connectorPunctuation | dashPunctuation | openPunctuation | closePunctuation
  | initialPunctuation | finalPunctuation | otherPunctuation
  | mathSymbol | currencySymbol | modifierSymbol | otherSymbol
  | spaceSeparator | lineSeparator | paragraphSeparator
  | control | format | privateUse
  deriving DecidableEq

namespace Category

def ranges : Category → Ranges
  | uppercaseLetter => Unicode.uppercaseLetter
  | lowercaseLetter => Unicode.lowercaseLetter
  | titlecaseLetter => Unicode.titlecaseLetter
  | modifierLetter => Unicode.modifierLetter
  | otherLetter => Unicode.otherLetter
  | nonspacingMark => Unicode.nonspacingMark
  | spacingMark => Unicode.spacingMark
  | enclosingMark => Unicode.enclosingMark
  | decimalNumber => Unicode.decimalNumber
  | letterNumber => Unicode.letterNumber
  | otherNumber => Unicode.otherNumber
  | connectorPunctuation => Unicode.connectorPunctuation
  | dashPunctuation => Unicode.dashPunctuation
  | openPunctuation => Unicode.openPunctuation
  | closePunctuation => Unicode.closePunctuation
  | initialPunctuation => Unicode.initialPunctuation
  | finalPunctuation => Unicode.finalPunctuation
  | otherPunctuation => Unicode.otherPunctuation
  | mathSymbol => Unicode.mathSymbol
  | currencySymbol => Unicode.currencySymbol
  | modifierSymbol => Unicode.modifierSymbol
  | otherSymbol => Unicode.otherSymbol
  | spaceSeparator => Unicode.spaceSeparator
  | lineSeparator => Unicode.lineSeparator
  | paragraphSeparator => Unicode.paragraphSeparator
  | control => Unicode.control
  | format => Unicode.format
  | privateUse => Unicode.privateUse

def has (category : Category) (c : Nat) : Bool := category.ranges.has c

def casedLetters : List Category := [lowercaseLetter, uppercaseLetter, titlecaseLetter]

def letters : List Category :=
  [lowercaseLetter, uppercaseLetter, otherLetter, modifierLetter, titlecaseLetter]

def marks : List Category := [nonspacingMark, spacingMark, enclosingMark]

def numbers : List Category := [decimalNumber, letterNumber, otherNumber]

def punctuation : List Category :=
  [connectorPunctuation, dashPunctuation, openPunctuation, closePunctuation, initialPunctuation,
    finalPunctuation, otherPunctuation]

def symbols : List Category := [mathSymbol, currencySymbol, modifierSymbol, otherSymbol]

def separators : List Category := [spaceSeparator, lineSeparator, paragraphSeparator]

/-- Every category of assigned characters. -/
def assigned : List Category :=
  letters ++ marks ++ numbers ++ punctuation ++ symbols ++ separators ++
    [control, format, privateUse]

end Category

inductive Property where
  | among (categories : List Category)
  | unassigned
  | other
  | any
  | ascii
  | alphabetic
  | whiteSpace
  | word
  deriving DecidableEq

def isAmong (categories : List Category) (c : Nat) : Bool := categories.any (·.has c)

/-- Letters and what else is alphabetic of no category of letters. -/
def alphabeticTables : List Ranges :=
  Category.letters.map Category.ranges ++ [letterNumber, alphabeticMark, alphabeticSymbol]

/-- What words are made of: alphabetic characters, marks, decimal numbers, connectors, joiners. -/
def wordTables : List Ranges :=
  (Category.letters ++ Category.marks).map Category.ranges
    ++ [decimalNumber, letterNumber, connectorPunctuation, alphabeticSymbol, [(0x200C, 0x200D)]]

def isWhiteSpace (c : Nat) : Bool := whiteSpace.has c

def isAlphabetic (c : Nat) : Bool := alphabeticTables.any (·.has c)

def isWord (c : Nat) : Bool := wordTables.any (·.has c)

namespace Property

def has : Property → Nat → Bool
  | among categories, c => isAmong categories c
  | unassigned, c => !isAmong Category.assigned c
  | other, c =>
      isAmong [Category.control, .format, .privateUse] c || !isAmong Category.assigned c
  | any, _ => true
  | ascii, c => decide (c < 0x80)
  | alphabetic, c => isAlphabetic c
  | whiteSpace, c => isWhiteSpace c
  | word, c => isWord c

/-- The set of the characters that have the property. -/
def boundaries : Property → Boundaries :=
  let ofTables (tables : List Ranges) : Boundaries := .unionAll (tables.map .ofRanges)
  let ofCategories (categories : List Category) : Boundaries :=
    ofTables (categories.map Category.ranges)
  fun
  | among categories => ofCategories categories
  | unassigned => (ofCategories Category.assigned).complement
  | other =>
      (ofCategories [Category.control, .format, .privateUse]).union
        (ofCategories Category.assigned).complement
  | any => Boundaries.scalars
  | ascii => [0, 0x80]
  | alphabetic => ofTables alphabeticTables
  | whiteSpace => .ofRanges Unicode.whiteSpace
  | word => ofTables wordTables

def loosely (name : String) : String :=
  let letters := (name.toList.map Char.toLower).filter fun c =>
    c.toNat < 0x80 && c != ' ' && c != '-' && c != '_'
  match name.toList.map Char.toLower with
  | 'i' :: 's' :: _ => if letters = ['i', 's', 'c'] then "isc" else String.ofList (letters.drop 2)
  | _ => String.ofList letters

def category? : String → Option Property
  | "lu" | "uppercaseletter" => some (among [.uppercaseLetter])
  | "ll" | "lowercaseletter" => some (among [.lowercaseLetter])
  | "lt" | "titlecaseletter" => some (among [.titlecaseLetter])
  | "lc" | "casedletter" => some (among Category.casedLetters)
  | "lm" | "modifierletter" => some (among [.modifierLetter])
  | "lo" | "otherletter" => some (among [.otherLetter])
  | "l" | "letter" => some (among Category.letters)
  | "mn" | "nonspacingmark" => some (among [.nonspacingMark])
  | "mc" | "spacingmark" => some (among [.spacingMark])
  | "me" | "enclosingmark" => some (among [.enclosingMark])
  | "m" | "mark" | "combiningmark" => some (among Category.marks)
  | "nd" | "decimalnumber" | "digit" => some (among [.decimalNumber])
  | "nl" | "letternumber" => some (among [.letterNumber])
  | "no" | "othernumber" => some (among [.otherNumber])
  | "n" | "number" => some (among Category.numbers)
  | "pc" | "connectorpunctuation" => some (among [.connectorPunctuation])
  | "pd" | "dashpunctuation" => some (among [.dashPunctuation])
  | "ps" | "openpunctuation" => some (among [.openPunctuation])
  | "pe" | "closepunctuation" => some (among [.closePunctuation])
  | "pi" | "initialpunctuation" => some (among [.initialPunctuation])
  | "pf" | "finalpunctuation" => some (among [.finalPunctuation])
  | "po" | "otherpunctuation" => some (among [.otherPunctuation])
  | "p" | "punctuation" | "punct" => some (among Category.punctuation)
  | "sm" | "mathsymbol" => some (among [.mathSymbol])
  | "sc" | "currencysymbol" => some (among [.currencySymbol])
  | "sk" | "modifiersymbol" => some (among [.modifierSymbol])
  | "so" | "othersymbol" => some (among [.otherSymbol])
  | "s" | "symbol" => some (among Category.symbols)
  | "zs" | "spaceseparator" => some (among [.spaceSeparator])
  | "zl" | "lineseparator" => some (among [.lineSeparator])
  | "zp" | "paragraphseparator" => some (among [.paragraphSeparator])
  | "z" | "separator" => some (among Category.separators)
  | "cc" | "control" | "cntrl" => some (among [.control])
  | "cf" | "format" => some (among [.format])
  | "co" | "privateuse" => some (among [.privateUse])
  | "cn" | "unassigned" => some unassigned
  | "c" | "other" => some other
  | "any" => some any
  | "assigned" => some (among Category.assigned)
  | "ascii" => some ascii
  | _ => none

def find? (name : String) : Option Property :=
  match loosely name with
  | "alpha" | "alphabetic" => some alphabetic
  | "space" | "whitespace" | "wspace" => some whiteSpace
  | name => category? name

/-- The property that `value` names for the key `key`; only general categories have a key. -/
def findKeyed? (key value : String) : Option Property :=
  match loosely key with
  | "gc" | "generalcategory" => category? (loosely value)
  | _ => none

end Property

end Treegram.Unicode
