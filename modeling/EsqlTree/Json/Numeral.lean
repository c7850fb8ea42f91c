import EsqlTree.Json.Value
import EsqlTree.Text.Numeral

/-!
# The number of a JSON numeral

A numeral is given as its parts. Without fraction and exponent it denotes an
integer, as long as 64 bits hold it; negative zero, having a sign to keep, does
not count as an integer.

Every other numeral denotes a floating-point number, by a rule that is quick and
not always nearest. The leading digits that fit an unsigned integer of 64 bits
are gathered into a significand; further whole digits raise the power of ten, and
further fraction digits are dropped. The significand is rounded once to a
floating-point number, and that is multiplied or divided once by a rounded power
of ten. A power beyond the greatest finite one is refused unless the significand
is zero; below the least, the number is divided down in steps.
-/

namespace EsqlTree.Json

/-- The parts of a numeral, digits as their values. -/
structure Numeral where
  /-- Whether a minus stands first. -/
  negative : Bool
  /-- The digits before the point. -/
  whole : List Nat
  /-- The digits after the point; none stand there if there is no point. -/
  fraction : List Nat
  /-- The power of ten of the exponent part; zero if there is none. -/
  power : Int
  /-- Whether neither a point nor an exponent part was written. -/
  plain : Bool

/-- One more than the greatest significand. -/
def significandLimit : Nat := 18446744073709551616

/-- Appends whole digits to a significand while it stays below the limit, and
counts those left over. -/
def gatherWhole (significand : Nat) : List Nat → Nat × Nat
  | [] => (significand, 0)
  | digit :: rest =>
    if significand * 10 + digit < significandLimit then
      gatherWhole (significand * 10 + digit) rest
    else (significand, rest.length + 1)

/-- Appends fraction digits to a significand while it stays below the limit, and
counts those appended. -/
def gatherFraction (significand : Nat) : List Nat → Nat × Nat
  | [] => (significand, 0)
  | digit :: rest =>
    if significand * 10 + digit < significandLimit then
      let gathered := gatherFraction (significand * 10 + digit) rest
      (gathered.1, gathered.2 + 1)
    else (significand, 0)

/-- A number divided by a power of ten, in steps of the greatest finite one. -/
def divideDown (x : Binary64) (power : Nat) : Binary64 :=
  if power ≤ 308 then x.div (Binary64.tenPow power)
  else if x.isZero then x
  else divideDown (x.div (Binary64.tenPow 308)) (power - 308)
termination_by power

/-- A significand weighed by a power of ten, without sign; nothing if that is
beyond the greatest finite number. -/
def weigh? (significand : Nat) (power : Int) : Option Binary64 :=
  let x := Binary64.ofNat significand
  if power < 0 then some (divideDown x power.natAbs)
  else if power ≤ 308 then some (x.mul (Binary64.tenPow power.toNat))
  else if x.isZero then some x
  else none

namespace Numeral

/-- The significand and the power of ten that weighs it. -/
def gathered (numeral : Numeral) : Nat × Int :=
  let whole := gatherWhole 0 numeral.whole
  let fraction := gatherFraction whole.1 numeral.fraction
  (fraction.1, (whole.2 : Int) - fraction.2 + numeral.power)

/-- The integer that the whole digits denote, with the sign. -/
def integer (numeral : Numeral) : Int :=
  if numeral.negative then -(Text.ofDigits 10 numeral.whole : Int)
  else Text.ofDigits 10 numeral.whole

/-- The floating-point number of a numeral, if it is finite. -/
def float? (numeral : Numeral) : Option Number :=
  match weigh? numeral.gathered.1 numeral.gathered.2 with
  | none => none
  | some x => Number.ofBinary64? (x.withSign numeral.negative)

/-- The number of a numeral, if it is in range. -/
def number? (numeral : Numeral) : Option Number :=
  if numeral.plain ∧ ¬(numeral.negative ∧ numeral.integer = 0) then
    if bounds : -9223372036854775808 ≤ numeral.integer
        ∧ numeral.integer < 18446744073709551616 then
      some (.integer ⟨numeral.integer, bounds.1, bounds.2⟩)
    else numeral.float?
  else numeral.float?

end Numeral

end EsqlTree.Json
