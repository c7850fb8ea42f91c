/-!
# Sets of characters as ranges of code points

A set is a list of ranges, each given by its first and its last code point, in
ascending order and with a gap between neighbours.
-/

namespace EsqlTree.Text

/-- Whether a character's code point lies in one of the ranges. -/
def inRanges (ranges : List (Nat × Nat)) (c : Char) : Bool :=
  ranges.any fun range => decide (range.1 ≤ c.toNat) && decide (c.toNat ≤ range.2)

end EsqlTree.Text
