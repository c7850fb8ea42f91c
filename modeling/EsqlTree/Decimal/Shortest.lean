import EsqlTree.Decimal.Binary64

/-!
# The shortest decimal that reads back

A finite number other than zero is the only one to which a whole interval of
reals rounds. The interval reaches half way to each neighbour and holds its ends
exactly if the significand is even, since a half goes to the even neighbour.
`shortest` finds the coarsest decimal grid with a point in that interval, and on
it the point nearest to the number. Only the two grid points beside the number
have to be looked at: if a grid has a point in the interval, it has one of those.

Which of two equally near points is taken is the caller's decision. All
arithmetic is exact.
-/

namespace EsqlTree

/-- A decimal, `coefficient · 10 ^ exponent`. -/
structure Decimal where
  /-- The digits, read as one number. -/
  coefficient : Nat
  /-- The power of ten that weighs the last digit. -/
  exponent : Int
deriving DecidableEq, Repr

namespace Decimal

/-- Which of two equally near decimals is taken. -/
inductive Tie where
  /-- The one with the even last digit. -/
  | toEven
  /-- The one farther from zero. -/
  | away
deriving DecidableEq, Repr

/-- The reals that round to a positive number, and the number itself, counted in
quarters of the weight of its last bit. -/
structure Interval where
  /-- The lower end. -/
  lower : Nat
  /-- The number. -/
  middle : Nat
  /-- The upper end. -/
  upper : Nat
  /-- Whether the ends belong to the interval. -/
  closed : Bool

/-- The interval of a finite number other than zero. Below a power of two the
neighbour is only half as far away, except at the least scale. -/
def Interval.of (x : Binary64) : Interval :=
  let middle := 4 * x.significand
  let below := if x.significand = Binary64.leadingBit ∧ -1074 < x.scale then 1 else 2
  ⟨middle - below, middle, middle + 2, x.significand % 2 == 0⟩

/-- A decimal grid laid over an interval: `count` grid steps are as long as
`count · step` quarters multiplied by `quarter`. -/
structure Grid where
  /-- What one quarter is multiplied by. -/
  quarter : Nat
  /-- The length of one grid step. -/
  step : Nat

/-- The grid of the multiples of a power of ten, over quarters of a binary scale. -/
def Grid.of (scale exponent : Int) : Grid :=
  ⟨(Nat.pow 10 (-exponent).toNat) <<< (scale - 2).toNat,
    (Nat.pow 10 exponent.toNat) <<< (2 - scale).toNat⟩

/-- Whether a grid point lies in an interval. -/
def Grid.hits (grid : Grid) (interval : Interval) (point : Nat) : Bool :=
  if interval.closed then
    interval.lower * grid.quarter ≤ point * grid.step
      && point * grid.step ≤ interval.upper * grid.quarter
  else
    interval.lower * grid.quarter < point * grid.step
      && point * grid.step < interval.upper * grid.quarter

/-- The grid point nearest to the number among the two beside it that lie in its
interval, if one does. -/
def Grid.nearest? (grid : Grid) (interval : Interval) (tie : Tie) : Option Nat :=
  let number := interval.middle * grid.quarter
  let below := number / grid.step
  let rest := number % grid.step
  match grid.hits interval below, grid.hits interval (below + 1) with
  | false, false => none
  | true, false => some below
  | false, true => some (below + 1)
  | true, true =>
    if 2 * rest < grid.step then some below
    else if grid.step < 2 * rest then some (below + 1)
    else if tie = .toEven ∧ below % 2 = 0 then some below
    else some (below + 1)

/-- The first hit while the grid gets finer, over a number of grids. Seventeen
digits always suffice, so the last case is not reached from `shortest`. -/
def search (x : Binary64) (tie : Tie) : (grids : Nat) → (exponent : Int) → Decimal
  | 0, exponent => ⟨0, exponent⟩
  | grids + 1, exponent =>
    match (Grid.of x.scale exponent).nearest? (Interval.of x) tie with
    | some coefficient => ⟨coefficient, exponent⟩
    | none => search x tie grids (exponent - 1)

/-- A power of ten that a finite number other than zero does not reach, and not
more than three times the next one. The constant is a little above the decimal
logarithm of two. -/
def ceiling (x : Binary64) : Int :=
  ((Nat.log2 x.significand : Int) + x.scale + 1) * 30103 / 100000 + 1

/-- The decimal with the fewest digits that rounds to a finite number's
magnitude, the nearest of those; zero is `0 · 10 ^ 0`. -/
def shortest (x : Binary64) (tie : Tie) : Decimal :=
  if x.isZero then ⟨0, 0⟩ else search x tie 24 (ceiling x)

end Decimal

end EsqlTree
