/-!
A cursor that reads a text character by character and marks a token in it. Behind
the cursor stands what it has read, the last character first; a token begins at
`start` and ends at `stop` or, with no end marked, where the cursor stands. Both
are counted in characters; what is told outside counts bytes.
-/

namespace Treegram

structure Cursor where
  behind : List Char := []
  ahead : List Char
  start : Nat := 0
  stop : Option Nat := none
  /-- The number of the token that was recognized. -/
  result : Option Nat := none
  deriving DecidableEq

namespace Cursor

def ofText (text : List Char) : Cursor := { ahead := text }

def text (cursor : Cursor) : List Char := cursor.behind.reverse ++ cursor.ahead

/-- The number of characters read. -/
def place (cursor : Cursor) : Nat := cursor.behind.length

def lookahead (cursor : Cursor) : Option Char := cursor.ahead.head?

def atEnd (cursor : Cursor) : Bool := cursor.ahead.isEmpty

/-- Reads one character, if there is one. A skipped character stands in front of the token. -/
def advance (skip : Bool) (cursor : Cursor) : Cursor :=
  match cursor.ahead with
  | [] => cursor
  | c :: rest =>
      { cursor with
        behind := c :: cursor.behind
        ahead := rest
        start := if skip then cursor.behind.length + 1 else cursor.start }

theorem length_ahead_advance {skip : Bool} {cursor : Cursor} {c : Char} {rest : List Char}
    (found : cursor.ahead = c :: rest) :
    (cursor.advance skip).ahead.length + 1 = cursor.ahead.length := by
  simp [advance, found]

theorem length_ahead_advance_le (skip : Bool) (cursor : Cursor) :
    (cursor.advance skip).ahead.length ≤ cursor.ahead.length := by
  cases found : cursor.ahead with
  | nil => simp [advance, found]
  | cons c rest =>
    have := @length_ahead_advance skip _ _ _ found
    simp_all only
    omega

def markEnd (cursor : Cursor) : Cursor := { cursor with stop := some cursor.place }

def setResult (number : Nat) (cursor : Cursor) : Cursor := { cursor with result := some number }

/-- Where the token ends. -/
def tokenEnd (cursor : Cursor) : Nat := cursor.stop.getD cursor.place

/-- Goes back until `count` characters are read. -/
def backTo (count : Nat) (cursor : Cursor) : Cursor :=
  let back := cursor.place - count
  { cursor with
    behind := cursor.behind.drop back
    ahead := (cursor.behind.take back).reverse ++ cursor.ahead }

/-- Goes back to the end of the token, where the next one begins. -/
def resetToken (cursor : Cursor) : Cursor :=
  let moved := cursor.backTo cursor.tokenEnd
  { moved with start := moved.place, stop := none, result := none }

def tokenText (cursor : Cursor) : List Char :=
  (cursor.text.take (max cursor.tokenEnd cursor.start)).drop cursor.start

/-- What follows the token. -/
def remaining (cursor : Cursor) : List Char := cursor.text.drop cursor.tokenEnd

/-- What can be done to a cursor. -/
inductive Move where
  | advance (skip : Bool)
  | markEnd
  | setResult (number : Nat)
  | resetToken

def move (cursor : Cursor) : Move → Cursor
  | .advance skip => cursor.advance skip
  | .markEnd => cursor.markEnd
  | .setResult number => cursor.setResult number
  | .resetToken => cursor.resetToken

end Cursor

end Treegram
