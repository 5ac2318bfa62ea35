/-!
# Sets of characters

A set of characters as the ranges of its code points, in ascending order and with both ends
included.
-/

namespace ModularRouter.Text

/-- Whether the code point of a character stands in one of some ranges. -/
def inRanges (ranges : List (Nat × Nat)) (c : Char) : Bool :=
  ranges.any fun (first, last) => first ≤ c.toNat && c.toNat ≤ last

end ModularRouter.Text
