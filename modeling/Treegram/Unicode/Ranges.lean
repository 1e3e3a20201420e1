/-!
Sets of code points as lists of ranges, both ends included, in ascending order.
-/

namespace Treegram.Unicode

abbrev Ranges := List (Nat × Nat)

/-- Looks no further than the first range that begins above the code point. -/
def Ranges.has : Ranges → Nat → Bool
  | [], _ => false
  | range :: rest, c => if c < range.1 then false else decide (c ≤ range.2) || Ranges.has rest c

end Treegram.Unicode
