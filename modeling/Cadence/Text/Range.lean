/-!
# Ranges of characters

A class of characters as a list of ranges of code points, both ends included.
-/

namespace Cadence.Text

/-- Whether a code point lies in one of the ranges. -/
def inRanges (n : Nat) (ranges : List (Nat × Nat)) : Bool :=
  ranges.any fun r => r.1 ≤ n && n ≤ r.2

end Cadence.Text
