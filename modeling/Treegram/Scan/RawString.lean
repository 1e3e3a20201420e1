import Treegram.Scan.Cursor

/-!
Raw strings. One opens with `r`, some number signs and a quote, and ends at the first
quote that as many number signs follow. Its opening, its content and its closing are
three tokens; between them only the count of number signs is remembered, in one byte.
-/

namespace Treegram

structure RawString where
  hashes : UInt8 := 0
  deriving DecidableEq

namespace RawString

def openingToken : Nat := 0

def contentToken : Nat := 1

def closingToken : Nat := 2

/-- Reads number signs; `none` if there are more than a byte can count. The sign that is one too
many has then been read. -/
def countHashes (count : Nat) (cursor : Cursor) : Option Nat × Cursor :=
  match _found : cursor.ahead with
  | '#' :: _ =>
      if count = 255 then (none, cursor.advance false)
      else countHashes (count + 1) (cursor.advance false)
  | _ => (some count, cursor)
termination_by cursor.ahead.length
decreasing_by
  have := @Cursor.length_ahead_advance false _ _ _ ‹cursor.ahead = '#' :: _›
  omega

/-- Reads number signs up to a limit. -/
def takeHashes : Nat → Nat → Cursor → Nat × Cursor
  | 0, count, cursor => (count, cursor)
  | limit + 1, count, cursor =>
      if cursor.lookahead = some '#' then takeHashes limit (count + 1) (cursor.advance false)
      else (count, cursor)

def scanOpening (state : RawString) (cursor : Cursor) : Bool × RawString × Cursor :=
  if cursor.lookahead = some 'r' then
    match countHashes 0 (cursor.advance false) with
    | (none, cursor) => (false, state, cursor)
    | (some count, cursor) =>
        if cursor.lookahead = some '"' then
          (true, { hashes := count.toUInt8 }, (cursor.advance false).setResult openingToken)
        else (false, state, cursor)
  else (false, state, cursor)

theorem takeHashes_length (limit count : Nat) (cursor : Cursor) :
    (takeHashes limit count cursor).2.ahead.length ≤ cursor.ahead.length := by
  induction limit generalizing count cursor with
  | zero => simp [takeHashes]
  | succ limit ih =>
    unfold takeHashes
    split
    · exact Nat.le_trans (ih _ _) (Cursor.length_ahead_advance_le false cursor)
    · exact Nat.le_refl _

/-- The content ends in front of the closing quote, which is found by reading over it. -/
def scanContent (hashes : Nat) (cursor : Cursor) : Bool × Cursor :=
  match _found : cursor.ahead with
  | [] => (false, cursor)
  | c :: _ =>
      if c = '"' then
        let taken := takeHashes hashes 0 (cursor.markEnd.advance false)
        if taken.1 = hashes then (true, taken.2.setResult contentToken)
        else scanContent hashes taken.2
      else scanContent hashes (cursor.advance false)
termination_by cursor.ahead.length
decreasing_by
  · have shorter := takeHashes_length hashes 0 (cursor.markEnd.advance false)
    have := @Cursor.length_ahead_advance false cursor.markEnd _ _ ‹cursor.ahead = c :: _›
    exact Nat.lt_of_le_of_lt shorter (Nat.lt_of_succ_le (Nat.le_of_eq this))
  · have := @Cursor.length_ahead_advance false _ _ _ ‹cursor.ahead = c :: _›
    omega

/-- Reads the quote and as many characters as there were number signs. -/
def scanClosing (hashes : Nat) (cursor : Cursor) : Cursor :=
  (Nat.repeat (Cursor.advance false) (hashes + 1) cursor).setResult closingToken

def isValid (valid : List Bool) (token : Nat) : Bool := valid[token]?.getD false

/-- Looks for one of the valid tokens: whether it was found, the state and the cursor behind it. -/
def scan (valid : List Bool) (state : RawString) (cursor : Cursor) : Bool × RawString × Cursor :=
  if isValid valid openingToken ∧ cursor.lookahead = some 'r' then scanOpening state cursor
  else if isValid valid contentToken then
    let (found, cursor) := scanContent state.hashes.toNat cursor
    (found, state, cursor)
  else if isValid valid closingToken ∧ cursor.lookahead = some '"' then
    (true, state, scanClosing state.hashes.toNat cursor)
  else (false, state, cursor)

/-- The bytes that go into a buffer of some size. -/
def serialize (size : Nat) (state : RawString) : List UInt8 :=
  if size = 0 then [] else [state.hashes]

/-- Anything but one byte makes a fresh state. -/
def deserialize : List UInt8 → RawString
  | [count] => { hashes := count }
  | _ => {}

/-- The buffer that a state is given to be written into. -/
def bufferSize : Nat := 1024

end RawString

end Treegram
