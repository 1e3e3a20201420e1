import Treegram.Pattern.Term

/-!
The longest prefix of a text that a term matches. While a text is read, marks in the
term stand at the sets that may have taken the last character, and each character
moves all marks at once. Parts without a mark stay terms and are not looked into, so a
turn costs no more than the marked parts and what can be reached from them.
-/

namespace Treegram.Pattern

inductive Marked where
  /-- A term without a mark. -/
  | idle (term : Term)
  /-- A set that has just taken a character. -/
  | taken (set : CharSet)
  | seq (first second : Marked)
  | alt (left right : Marked)
  | star (body : Marked)

namespace Marked

def joined : Marked → Marked → Marked
  | idle first, idle second => idle (.seq first second)
  | first, second => seq first second

def either : Marked → Marked → Marked
  | idle left, idle right => idle (.alt left right)
  | left, right => alt left right

def repeated : Marked → Marked
  | idle body => idle (.star body)
  | body => star body

/-- One set that is offered a character. -/
def offer (set : CharSet) (c : Char) : Marked :=
  if set.has c.toNat then taken set else idle (.chars set)

def isIdle : Marked → Bool
  | idle _ => true
  | _ => false

/-- Whether the end of the term is reached between two characters: from a mark or, if `reached`,
from its beginning. -/
def passes (before after : Option Char) (reached : Bool) : Marked → Bool
  | idle term => reached && term.nullable before after
  | taken _ => true
  | seq first second => second.passes before after (first.passes before after reached)
  | alt left right => left.passes before after reached || right.passes before after reached
  | star body => reached || body.passes before after false

end Marked

/-- Reads `c`, which stands behind `before`, at the beginning of a term, and tells whether the end
of the term is reached without it. -/
def Term.enter (before : Option Char) (c : Char) : Term → Marked × Bool
  | empty => (.idle empty, true)
  | chars set => (.offer set c, false)
  | assert assertion => (.idle (assert assertion), assertion.holds before (some c))
  | seq first second =>
      let (first, reached) := first.enter before c
      if reached then
        let (second, passed) := second.enter before c
        (.joined first second, passed)
      else (.joined first (.idle second), false)
  | alt left right =>
      let (left, passedLeft) := left.enter before c
      let (right, passedRight) := right.enter before c
      (.either left right, passedLeft || passedRight)
  | star body =>
      let (body, _) := body.enter before c
      (.repeated body, true)

namespace Marked

/-- Reads `c` behind the marks, and at the beginning as well if that is reached, and tells whether
the end is reached without it. -/
def read (before : Option Char) (c : Char) (reached : Bool) : Marked → Marked × Bool
  | idle term => if reached then term.enter before c else (idle term, false)
  | taken set => (if reached then offer set c else idle (.chars set), true)
  | seq first second =>
      let (first, reached) := first.read before c reached
      let (second, passed) := second.read before c reached
      (joined first second, passed)
  | alt left right =>
      let (left, passedLeft) := left.read before c reached
      let (right, passedRight) := right.read before c reached
      (either left right, passedLeft || passedRight)
  | star body =>
      let reached := reached || body.passes before (some c) false
      let (body, _) := body.read before c reached
      (repeated body, reached)

end Marked

theorem Term.enter_passes (before : Option Char) (c : Char) (term : Term) :
    (term.enter before c).2 = term.nullable before (some c) := by
  induction term with
  | empty | chars | assert | star => rfl
  | seq first second left right => simp only [enter, nullable, left]; split <;> simp_all
  | alt first second left right => simp only [enter, nullable, left, right]

/-- What is told while reading is what can be asked before. -/
theorem Marked.read_passes (before : Option Char) (c : Char) (marked : Marked) (reached : Bool) :
    (marked.read before c reached).2 = marked.passes before (some c) reached := by
  induction marked generalizing reached with
  | idle term => cases reached <;> simp [read, passes, Term.enter_passes]
  | taken => rfl
  | seq first second left right => simp only [read, passes, left, right]
  | alt first second left right => simp only [read, passes, left, right]
  | star => rfl

/-- Goes on at byte `position`; `best` is the longest match so far. -/
def longestFrom (marked : Marked) (before : Option Char) (position : Nat) (best : Option Nat)
    (text : List Char) : Option Nat :=
  match text with
  | [] => if marked.passes before none false then some position else best
  | c :: rest =>
      let (next, passed) := marked.read before c false
      let best := if passed then some position else best
      if next.isIdle then best else longestFrom next (some c) (position + c.utf8Size) best rest

/-- The length in bytes of the longest prefix that is matched and not empty. -/
def Term.longest? (term : Term) : List Char → Option Nat
  | [] => none
  | c :: rest => longestFrom (term.enter none c).1 (some c) c.utf8Size none rest

end Treegram.Pattern
