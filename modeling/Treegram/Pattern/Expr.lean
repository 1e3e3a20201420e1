import Treegram.Pattern.Term

/-!
Patterns as they are written: with counted repetitions and numbered groups. What a
pattern matches is told by the term that it stands for.
-/

namespace Treegram.Pattern

inductive Expr where
  | nothing
  | chars (set : CharSet)
  | assert (assertion : Assertion)
  /-- Pieces one after the other. -/
  | sequence (parts : List Expr)
  | choice (alternatives : List Expr)
  | times (body : Expr) (low : Nat) (high : Option Nat)
  /-- A group that is counted. -/
  | group (number : Nat) (body : Expr)

namespace Expr

mutual

/-- Whether only the empty text can be matched. -/
def isWidthless : Expr → Bool
  | nothing | assert _ => true
  | chars _ => false
  | sequence parts => areWidthless parts
  | choice alternatives => areWidthless alternatives
  | times body _ high => high == some 0 || isWidthless body
  | group _ body => isWidthless body

def areWidthless : List Expr → Bool
  | [] => true
  | expr :: rest => isWidthless expr && areWidthless rest

end

/-- A repetition. What matches only the empty text matches as much once as often. -/
def repeated (body : Expr) (low : Nat) (high : Option Nat) : Expr :=
  if high = some 0 then nothing
  else if body.isWidthless then if low = 0 then times body 0 (some 1) else body
  else if low = 1 ∧ high = some 1 then body
  else times body low high

mutual

/-- What the pattern stands for. -/
def term : Expr → Term
  | nothing => .empty
  | chars set => .chars set
  | assert assertion => .assert assertion
  | sequence parts => .sequence (terms [] parts)
  | choice alternatives => .choice (terms [] alternatives)
  | times body low high => (term body).times low high
  | group _ body => term body

/-- Terms behind those already found, which come last first. -/
def terms (found : List Term) : List Expr → List Term
  | [] => found.reverse
  | expr :: rest => terms (term expr :: found) rest

end

theorem terms_eq (found : List Term) (parts : List Expr) :
    terms found parts = found.reverse ++ parts.map term := by
  induction parts generalizing found with
  | nil => simp [terms]
  | cons expr rest ih => simp [terms, ih]

theorem areWidthless_eq (parts : List Expr) : areWidthless parts = parts.all isWidthless := by
  induction parts with
  | nil => rfl
  | cons expr rest ih => simp [areWidthless, ih]

end Expr

end Treegram.Pattern
