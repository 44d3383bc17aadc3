/-!
# Ranges of code points

Character classes beyond ASCII are tables of ranges; this is the look-up that they share.
-/

namespace StyleGauge.Text

/-- Whether a code point lies in one of the ranges, both ends included. -/
def inRanges (ranges : List (Nat × Nat)) (n : Nat) : Bool :=
  ranges.any fun r => r.1 ≤ n && n ≤ r.2

end StyleGauge.Text
