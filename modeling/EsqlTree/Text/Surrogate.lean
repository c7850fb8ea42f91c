/-!
# Surrogate pairs

A character beyond the first 65536 code points is written in escapes as two units of
sixteen bits, a high surrogate and a low one. By itself neither stands for a
character.
-/

namespace EsqlTree.Text

/-- True of the units that begin a surrogate pair. -/
def isHighSurrogate (unit : Nat) : Bool := decide (0xD800 ≤ unit) && decide (unit ≤ 0xDBFF)

/-- True of the units that end a surrogate pair. -/
def isLowSurrogate (unit : Nat) : Bool := decide (0xDC00 ≤ unit) && decide (unit ≤ 0xDFFF)

/-- The character that a surrogate pair denotes. -/
def ofSurrogates (high low : Nat) : Char :=
  Char.ofNat (0x10000 + (high - 0xD800) * 0x400 + (low - 0xDC00))

end EsqlTree.Text
