/-!
# Binary floating-point numbers of 64 bits

A number is kept as its sign and its magnitude code, the remaining 63 bits read
as a natural number: eleven bits of exponent above fifty-two bits of fraction.
Magnitudes are ordered as their codes are, so rounding is arithmetic on natural
numbers and never leaves the exact world: a quotient is rounded once, to the
nearest number, and of two equally near ones to the one with an even code.

Equality of the structure is equality bit for bit. The numeric comparison, which
tells no zero from the other and finds no NaN equal to anything, is `same`.
Addition, subtraction and the status flags are not covered.
-/

namespace EsqlTree

/-- A binary floating-point number: a sign, and the code of a magnitude. -/
structure Binary64 where
  /-- Set on negative numbers, negative zero included. -/
  negative : Bool
  /-- Exponent and fraction, read as one natural number. -/
  magnitude : Fin 0x8000000000000000
deriving DecidableEq, Repr

namespace Binary64

/-- The weight of the implicit leading bit of a significand, and the number of
codes that share an exponent. -/
def leadingBit : Nat := 0x10000000000000

/-- The magnitude code of infinity; every finite magnitude has a smaller code,
and every code above it denotes no number. -/
def infinityCode : Nat := 2047 * leadingBit

/-- True of the numbers that are neither infinite nor NaN. -/
def isFinite (x : Binary64) : Bool := x.magnitude.val < infinityCode

/-- True of the patterns that denote no number. -/
def isNaN (x : Binary64) : Bool := infinityCode < x.magnitude.val

/-- True of the two zeros. -/
def isZero (x : Binary64) : Bool := x.magnitude.val == 0

/-- The zero of a sign. -/
def zero (negative : Bool) : Binary64 := ⟨negative, ⟨0, by decide⟩⟩

/-- The infinity of a sign. -/
def infinity (negative : Bool) : Binary64 := ⟨negative, ⟨infinityCode, by decide⟩⟩

/-- The quiet NaN of a sign whose other fraction bits are clear. -/
def quietNaN (negative : Bool) : Binary64 :=
  ⟨negative, ⟨infinityCode + leadingBit / 2, by decide⟩⟩

/-- Numeric equality: a NaN equals nothing, and the two zeros equal each other. -/
def same (x y : Binary64) : Bool :=
  !x.isNaN && !y.isNaN && (x == y || (x.isZero && y.isZero))

/-- The whole number `significand` such that the magnitude of a finite number is
`significand · 2 ^ scale`. Magnitudes below the least normal one have no implicit
leading bit. -/
def significand (x : Binary64) : Nat :=
  if x.magnitude.val < leadingBit then x.magnitude.val
  else x.magnitude.val % leadingBit + leadingBit

/-- The power of two that weighs the last bit of `significand`. -/
def scale (x : Binary64) : Int :=
  if x.magnitude.val < leadingBit then -1074
  else (x.magnitude.val / leadingBit : Nat) - 1075

/-- The magnitude of a finite number as an exact quotient. -/
def quotient (x : Binary64) : Nat × Nat :=
  (x.significand <<< x.scale.toNat, 1 <<< (-x.scale).toNat)

/-- The whole number nearest to a quotient; a half goes to the even neighbour. -/
def roundDiv (numerator denominator : Nat) : Nat :=
  let below := numerator / denominator
  let rest := numerator % denominator
  if denominator < 2 * rest ∨ (2 * rest = denominator ∧ below % 2 = 1) then below + 1
  else below

/-- The power of two that weighs the last bit of a rounded positive quotient:
fifty-two places below the leading bit, and never below the least scale there
is. The leading bits of numerator and denominator place the quotient's own to
within one. -/
def scaleOf (numerator denominator : Nat) : Int :=
  let guess : Int := (Nat.log2 numerator : Int) - Nat.log2 denominator
  let leading :=
    if denominator <<< guess.toNat ≤ numerator <<< (-guess).toNat then guess else guess - 1
  if leading < -1022 then -1074 else leading - 52

/-- The number nearest to a quotient with positive denominator, to the even one
of two equally near, and infinity above the greatest finite number. A rounded
significand that reaches the next power of two carries into the exponent by
itself, because the code is the significand laid above the scale. -/
def ofQuotient (negative : Bool) (numerator denominator : Nat) : Binary64 :=
  if numerator = 0 then zero negative
  else
    let scale := scaleOf numerator denominator
    let rounded :=
      roundDiv (numerator <<< (-scale).toNat) (denominator <<< scale.toNat)
    let code := (scale + 1074).toNat * leadingBit + rounded
    if finite : code < infinityCode then
      ⟨negative, ⟨code, Nat.lt_trans finite (by decide)⟩⟩
    else infinity negative

/-- The number nearest to a natural number. -/
def ofNat (n : Nat) : Binary64 := ofQuotient false n 1

/-- The number nearest to a power of ten. -/
def tenPow (exponent : Nat) : Binary64 := ofNat (Nat.pow 10 exponent)

/-- The product of two finite numbers, rounded once. -/
def mul (x y : Binary64) : Binary64 :=
  ofQuotient (x.negative != y.negative)
    (x.quotient.1 * y.quotient.1) (x.quotient.2 * y.quotient.2)

/-- The quotient of two finite numbers, the second of them not zero, rounded once. -/
def div (x y : Binary64) : Binary64 :=
  ofQuotient (x.negative != y.negative)
    (x.quotient.1 * y.quotient.2) (x.quotient.2 * y.quotient.1)

/-- The number with the sign given and the same magnitude. -/
def withSign (negative : Bool) (x : Binary64) : Binary64 := { x with negative }

@[simp] theorem isFinite_zero (negative : Bool) : (zero negative).isFinite = true := rfl

@[simp] theorem isFinite_withSign (negative : Bool) (x : Binary64) :
    (x.withSign negative).isFinite = x.isFinite := rfl

/-- Numbers that are equal numerically are not NaN, and conversely each number
other than NaN equals itself. -/
theorem same_self_iff (x : Binary64) : x.same x = true ↔ x.isNaN = false := by
  simp [same]

end Binary64

/-- A floating-point number that is neither infinite nor NaN. -/
abbrev FiniteBinary64 := { x : Binary64 // x.isFinite = true }

end EsqlTree
