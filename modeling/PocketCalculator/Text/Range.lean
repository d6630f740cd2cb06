/-!
# Ranges of code points

A set of characters is often given by the ranges of their code points.
-/

namespace PocketCalculator.Text

/-- Whether the code point of a character lies in one of the ranges, given by first and last. -/
def inRanges (ranges : List (Nat × Nat)) (c : Char) : Bool :=
  ranges.any fun (first, last) => first ≤ c.toNat && c.toNat ≤ last

end PocketCalculator.Text
