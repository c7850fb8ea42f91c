import EsqlTree.Json.Mismatch
import EsqlTree.Tree.Kind
import EsqlTree.Tree.Location

/-!
# Reading a location or a kind by itself

A location that stands alone is an object with its two offsets, whatever other
members it has, or an array of the two. The offsets of an object are looked at in
the order of their keys, and only then is one missed that is not there. A kind that
stands alone is given by its tag.
-/

namespace EsqlTree

/-- The kind of a tag, or why there is none. -/
def Kind.named (tag : String) : Except Json.Mismatch Kind :=
  match Kind.ofTag? tag with
  | some kind => .ok kind
  | none => .error (.unknownName tag (Kind.all.map Kind.tag))

namespace Location

open Json (Value Members Mismatch lookup)

/-- An offset: an integer that 32 bits hold without a sign. -/
def offset : Value → Except Mismatch UInt32
  | .number (.integer n) =>
    match n.toUInt32? with
    | some offset => .ok offset
    | none => .error (.integerOutOfRange n "u32")
  | other => .error (.invalidType other "u32")

/-- An offset of an object, if it has one. -/
def offsetOf (key : String) (members : Members) : Except Mismatch (Option UInt32) :=
  match lookup key members with
  | some value => (offset value).map some
  | none => .ok none

/-- The location that a JSON value stands for. -/
def ofJson : Value → Except Mismatch Location
  | .object members => do
    let max ← offsetOf "max" members
    let min ← offsetOf "min" members
    match min, max with
    | none, _ => .error (.missingField "min")
    | _, none => .error (.missingField "max")
    | some min, some max => .ok { min, max }
  | .array [] => .error (.tooShort 0 "struct Location with 2 elements")
  | .array [first] => do
    let _ ← offset first
    .error (.tooShort 1 "struct Location with 2 elements")
  | .array (first :: second :: others) => do
    let min ← offset first
    let max ← offset second
    if others.isEmpty then .ok { min, max } else .error (.tooLong (others.length + 2))
  | other => .error (.invalidType other "struct Location")

end Location

end EsqlTree
