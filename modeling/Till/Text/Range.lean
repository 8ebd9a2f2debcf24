/-!
# Ranges of characters

A class of characters is given by the ranges of its code points, ends included, in ascending
order.  `Text.inRanges` is membership in such a class.
-/

namespace Till

namespace Text

/-- Whether a character lies in one of the ranges. -/
def inRanges (ranges : List (Nat × Nat)) (c : Char) : Bool :=
  ranges.any fun r => decide (r.1 ≤ c.toNat) && decide (c.toNat ≤ r.2)

end Text

end Till
