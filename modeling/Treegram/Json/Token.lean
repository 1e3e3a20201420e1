import Treegram.Json.Decimal
import Treegram.Json.Quoted

/-!
Texts as token lists. The list ends where the text does or, with the token `bad`,
at the first place that is no token; whoever does not get as far as that place is
not disturbed by it. Tokens may stand side by side without anything between them.
-/

namespace Treegram.Json

inductive Token where
  | beginArray
  | endArray
  | beginObject
  | endObject
  | comma
  | colon
  | null
  | bool (value : Bool)
  | number (decimal : Decimal)
  | string (content : String)
  | bad
  deriving DecidableEq

namespace Token

def isBlank (c : Char) : Bool := c == ' ' || c == '\t' || c == '\n' || c == '\r'

def punctuation? : Char → Option Token
  | '[' => some beginArray
  | ']' => some endArray
  | '\x7b' => some beginObject
  | '\x7d' => some endObject
  | ',' => some comma
  | ':' => some colon
  | _ => none

def isNumberStart (c : Char) : Bool := c == '-' || c.isDigit

/-- The word at the front of a text, with its length. -/
def word? : List Char → Option (Token × Nat)
  | 'n' :: 'u' :: 'l' :: 'l' :: _ => some (null, 4)
  | 't' :: 'r' :: 'u' :: 'e' :: _ => some (bool true, 4)
  | 'f' :: 'a' :: 'l' :: 's' :: 'e' :: _ => some (bool false, 5)
  | _ => none

/-- The tokens of `text` behind those already found, which come last first. -/
def scanOnto (found : List Token) (text : List Char) : List Token :=
  match text with
  | [] => found.reverse
  | c :: rest =>
      if isBlank c then scanOnto found rest
      else
        match punctuation? c with
        | some token => scanOnto (token :: found) rest
        | none =>
            if c = '"' then
              match closing? 0 rest with
              | none => (bad :: found).reverse
              | some count =>
                  match unescape? (rest.take (count - 1)) with
                  | none => (bad :: found).reverse
                  | some content =>
                      scanOnto (string (String.ofList content) :: found) (rest.drop count)
            else if isNumberStart c then
              let read := Decimal.front (c :: rest)
              if read.isValid then
                scanOnto (number read :: found) (rest.drop (read.chars.length - 1))
              else (bad :: found).reverse
            else
              match word? (c :: rest) with
              | none => (bad :: found).reverse
              | some (token, length) => scanOnto (token :: found) (rest.drop (length - 1))
termination_by text.length
decreasing_by all_goals simp; try omega

def scan (text : List Char) : List Token := scanOnto [] text

end Token

end Treegram.Json
