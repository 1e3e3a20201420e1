import Treegram.Unicode.Ranges

/-!
Sets of code points by their boundaries: the code points at which the set begins or
ends, in ascending order. Each set has one such list, so sets can be compared.
-/

namespace Treegram.Unicode

abbrev Boundaries := List Nat

namespace Boundaries

/-- Every boundary that is passed turns the answer around. -/
def has : Boundaries → Nat → Bool
  | [], _ => false
  | point :: rest, c => if c < point then false else !has rest c

/-- The code points that `keep` wants, going by whether they are in the one set and in the other. -/
def combineFrom (keep : Bool → Bool → Bool) (inLeft inRight : Bool) (left right : Boundaries) :
    Boundaries :=
  let turn (point : Nat) (nowLeft nowRight : Bool) (rest : Boundaries) : Boundaries :=
    if keep inLeft inRight == keep nowLeft nowRight then rest else point :: rest
  match left, right with
  | [], [] => []
  | a :: left, [] => turn a (!inLeft) inRight (combineFrom keep (!inLeft) inRight left [])
  | [], b :: right => turn b inLeft (!inRight) (combineFrom keep inLeft (!inRight) [] right)
  | a :: left, b :: right =>
      if a < b then
        turn a (!inLeft) inRight (combineFrom keep (!inLeft) inRight left (b :: right))
      else if b < a then
        turn b inLeft (!inRight) (combineFrom keep inLeft (!inRight) (a :: left) right)
      else turn a (!inLeft) (!inRight) (combineFrom keep (!inLeft) (!inRight) left right)
termination_by left.length + right.length
decreasing_by all_goals simp; try omega

def combine (keep : Bool → Bool → Bool) (left right : Boundaries) : Boundaries :=
  combineFrom keep false false left right

def union : Boundaries → Boundaries → Boundaries := combine (· || ·)

def inter : Boundaries → Boundaries → Boundaries := combine (· && ·)

def minus : Boundaries → Boundaries → Boundaries := combine fun left right => left && !right

def either : Boundaries → Boundaries → Boundaries := combine (· != ·)

/-- Everything that can be a character. -/
def scalars : Boundaries := [0, 0xD800, 0xE000, 0x110000]

def complement (set : Boundaries) : Boundaries := scalars.minus set

/-- Ranges that touch become one. -/
def ofRanges (ranges : Ranges) : Boundaries :=
  ranges.foldr (fun range rest =>
    match rest with
    | next :: behind => if next = range.2 + 1 then range.1 :: behind else range.1 :: (range.2 + 1) :: rest
    | [] => [range.1, range.2 + 1]) []

def toRanges : Boundaries → Ranges
  | first :: behind :: rest => (first, behind - 1) :: toRanges rest
  | _ => []

def unionAll (sets : List Boundaries) : Boundaries := sets.foldl union []

end Boundaries

end Treegram.Unicode
