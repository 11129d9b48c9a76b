/-!
# Sets of characters as lists of ranges

A set of characters given by the first and last code point of each of its runs.
-/

namespace DiffGauge.Text

/-- A code point lies in one of the ranges. -/
def inRanges (ranges : List (Nat × Nat)) (n : Nat) : Bool :=
  ranges.any fun (low, high) => low ≤ n && n ≤ high

end DiffGauge.Text
