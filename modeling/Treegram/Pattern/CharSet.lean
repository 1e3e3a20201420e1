import Treegram.Ordered
import Treegram.Unicode.Property
import Treegram.Unicode.SimpleFold

/-!
Sets of characters as a pattern spells them. They are kept as they are spelled; what
matches asks whether they hold one character, and what measures wants them whole.
-/

namespace Treegram.Pattern

open Unicode (Boundaries Property Ranges)

inductive CharSet where
  | ranges (ranges : Ranges)
  | property (property : Property)
  | union (left right : CharSet)
  | inter (left right : CharSet)
  | minus (left right : CharSet)
  | either (left right : CharSet)
  | complement (set : CharSet)
  | folded (set : CharSet)
  | foldedAscii (set : CharSet)
  deriving DecidableEq

namespace CharSet

def none : CharSet := ranges []

def one (c : Char) : CharSet := ranges [(c.toNat, c.toNat)]

/-- The other case of an ASCII letter. -/
def swapAscii (c : Nat) : Nat :=
  if 0x41 ≤ c ∧ c ≤ 0x5A then c + 0x20 else if 0x61 ≤ c ∧ c ≤ 0x7A then c - 0x20 else c

/-- A folded set holds all characters that differ only in case from one it was made of. -/
def has : CharSet → Nat → Bool
  | ranges list, c => list.has c
  | property p, c => p.has c
  | union a b, c => a.has c || b.has c
  | inter a b, c => a.has c && b.has c
  | minus a b, c => a.has c && !b.has c
  | either a b, c => a.has c != b.has c
  | complement a, c => !a.has c
  | folded a, c => (Unicode.orbit c).any fun d => a.has d
  | foldedAscii a, c => a.has c || a.has (swapAscii c)

def ofPoints (points : List Nat) : Boundaries :=
  .ofRanges ((ascending points).map fun point => (point, point))

/-- The whole set. -/
def boundaries : CharSet → Boundaries
  | ranges list => .ofRanges list
  | property p => p.boundaries
  | union a b => a.boundaries.union b.boundaries
  | inter a b => a.boundaries.inter b.boundaries
  | minus a b => a.boundaries.minus b.boundaries
  | either a b => a.boundaries.either b.boundaries
  | complement a => a.boundaries.complement
  | folded a =>
      let set := a.boundaries
      set.union (ofPoints (Unicode.orbitsWith set.has))
  | foldedAscii a =>
      let set := a.boundaries
      set.union (ofPoints ((List.range 0x80).filter fun c => set.has (swapAscii c)))

end CharSet

end Treegram.Pattern
