/-!
# Classes of characters

A class of characters is given by ranges of code points in ascending order, as the Unicode tables
list them.
-/

namespace Conform

/-- A set of characters, as ranges of code points with both ends included. -/
structure CharClass where
  ranges : List (Nat × Nat)

namespace CharClass

/-- The character lies in one of the ranges. -/
def contains (family : CharClass) (character : Char) : Bool :=
  family.ranges.any fun range =>
    decide (range.1 ≤ character.toNat) && decide (character.toNat ≤ range.2)

end CharClass

end Conform
