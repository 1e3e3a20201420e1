import Treegram.Pattern.CharSet

/-!
Patterns as terms, with their repetitions written out. Assertions look at the
characters before and after a place and read nothing.
-/

namespace Treegram.Pattern

inductive WordEdge where
  | boundary
  | noBoundary
  | start
  | stop
  | startHalf
  | stopHalf
  deriving DecidableEq

inductive Assertion where
  | textStart
  | textStop
  | lineStart
  | lineStop
  | lineStartCrlf
  | lineStopCrlf
  | word (edge : WordEdge) (words : CharSet)
  deriving DecidableEq

namespace Assertion

def holds (before after : Option Char) : Assertion → Bool
  | textStart => before.isNone
  | textStop => after.isNone
  | lineStart => before.all (· == '\n')
  | lineStop => after.all (· == '\n')
  | lineStartCrlf =>
      before.all (· == '\n') || (before == some '\r' && after != some '\n')
  | lineStopCrlf =>
      after.all (· == '\r') || (after == some '\n' && before != some '\r')
  | word edge words =>
      let left := before.any fun c => words.has c.toNat
      let right := after.any fun c => words.has c.toNat
      match edge with
      | .boundary => left != right
      | .noBoundary => left == right
      | .start => !left && right
      | .stop => left && !right
      | .startHalf => !left
      | .stopHalf => !right

end Assertion

inductive Term where
  | empty
  | chars (set : CharSet)
  | assert (assertion : Assertion)
  | seq (first second : Term)
  | alt (left right : Term)
  | star (body : Term)
  deriving DecidableEq

namespace Term

def never : Term := chars .none

def optional (body : Term) : Term := alt body empty

/-- Joins neighbours. -/
def pairUp (join : Term → Term → Term) : List Term → List Term
  | first :: second :: rest => join first second :: pairUp join rest
  | short => short

theorem length_pairUp_le (join : Term → Term → Term) :
    ∀ terms : List Term, (pairUp join terms).length ≤ terms.length
  | [] | [_] => by simp [pairUp]
  | _ :: _ :: rest => by
      have := length_pairUp_le join rest
      simp [pairUp]; omega

/-- Joins terms that stand in a row, as evenly as it goes, so that a long row makes no deep term. -/
def joinAll (join : Term → Term → Term) (unit : Term) : List Term → Term
  | [] => unit
  | [only] => only
  | first :: second :: rest => joinAll join unit (join first second :: pairUp join rest)
termination_by terms => terms.length
decreasing_by
  have := length_pairUp_le join rest
  simp; omega

/-- The terms one after the other. -/
def sequence : List Term → Term := joinAll seq empty

/-- Any one of the terms. -/
def choice : List Term → Term := joinAll alt never

/-- The body `count` times. Halves are made once and stand twice, so that no count makes the term
deep. -/
def power (body : Term) (count : Nat) : Term :=
  if count = 0 then empty
  else if count = 1 then body
  else
    let half := power body (count / 2)
    if count % 2 = 0 then seq half half else seq body (seq half half)

/-- At most `count` times the body, one time behind the other. -/
def fewTimes (body : Term) (count : Nat) : Term :=
  if count = 0 then empty
  else Nat.repeat (fun rest => optional (seq body rest)) (count - 1) (optional body)

/-- The number of times that are taken together when there are many. -/
def batch : Nat := 64

/-- At most `count` times the body: a batch as long as there is one, or fewer times. -/
def upTo (body : Term) (count : Nat) : Term :=
  Nat.repeat (fun rest => alt (seq (power body batch) rest) (fewTimes body (batch - 1)))
    (count / batch) (fewTimes body (count % batch))

/-- At least `low` times the body, and if `high` is given at most that often. -/
def times (body : Term) (low : Nat) (high : Option Nat) : Term :=
  let tail :=
    match high with
    | none => star body
    | some high => upTo body (high - low)
  if low = 0 then tail
  else if high = some low then power body low
  else seq (power body low) tail

/-- Whether the term matches the empty text between two characters. -/
def nullable (before after : Option Char) : Term → Bool
  | empty => true
  | chars _ => false
  | assert assertion => assertion.holds before after
  | seq first second => first.nullable before after && second.nullable before after
  | alt left right => left.nullable before after || right.nullable before after
  | star _ => true

end Term

end Treegram.Pattern
