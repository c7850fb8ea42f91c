import EsqlTree.Json.Value

/-!
# Source locations

The part of a query text that a node was read from, as the offsets of its first
and its last character. Both ends belong to it. No order between the ends is
required: a location is kept as it was reported, and one whose ends are reversed
covers nothing.
-/

namespace EsqlTree

/-- The offsets of the first and the last character of a node. -/
structure Location where
  /-- The first offset. -/
  min : UInt32 := 0
  /-- The last offset. -/
  max : UInt32 := 0
deriving DecidableEq, Repr

namespace Location

/-- Whether an offset lies within a location. -/
def contains (location : Location) (offset : UInt32) : Bool :=
  decide (location.min ≤ offset) && decide (offset ≤ location.max)

/-- Locations are ordered by their first offset, and then by their last. -/
def order (left right : Location) : Ordering :=
  if left.min < right.min then .lt
  else if right.min < left.min then .gt
  else if left.max < right.max then .lt
  else if right.max < left.max then .gt
  else .eq

/-- The JSON form of a location. -/
def toJson (location : Location) : Json.Value :=
  .object [("min", .number (.ofUInt32 location.min)), ("max", .number (.ofUInt32 location.max))]

end Location

end EsqlTree
