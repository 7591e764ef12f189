/-!
# Ranges of characters

A class of characters is given by the closed ranges of its code points.

* `Text.inRanges` : whether a character is in one of the ranges.
-/

namespace TapeMachine.Text

/-- Whether a character is in one of the ranges. -/
def inRanges (ranges : List (Nat × Nat)) (c : Char) : Bool :=
  ranges.any fun (low, high) => low ≤ c.toNat && c.toNat ≤ high

end TapeMachine.Text
