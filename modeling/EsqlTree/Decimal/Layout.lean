import EsqlTree.Decimal.Shortest
import EsqlTree.Text.Numeral

/-!
# How a floating-point number is written

A layout is the set of decisions that turn the digits of a number into text:
which magnitudes are written with an exponent, whether a whole number keeps a
fraction, and which of two equally near decimals is taken. Two layouts are in use:
`Layout.json` for numbers inside a JSON text, and `Layout.display` for
numbers shown to a reader. Both write the sign of negative zero.
-/

namespace EsqlTree.Decimal

/-- The decisions of a number format. -/
structure Layout where
  /-- The power of ten of the leading digit for which no exponent is written. -/
  positional : Int → Bool
  /-- Whether a whole number is written with `.0` when no exponent is. -/
  fractionAlways : Bool
  /-- Which of two equally near shortest decimals is taken. -/
  tie : Tie

/-- JSON numbers have an exponent below a hundred-thousandth and from ten
quadrillions on, show that they are no integers by a point or an exponent, and
take the even one of two equally near decimals. -/
def Layout.json : Layout where
  positional := fun leading => decide (-5 ≤ leading) && decide (leading ≤ 15)
  fractionAlways := true
  tie := .toEven

/-- Displayed numbers have no exponent and no superfluous fraction, and take the
one farther from zero of two equally near decimals. -/
def Layout.display : Layout where
  positional := fun _ => true
  fractionAlways := false
  tie := .away

/-- Digits with a decimal point, the leading digit weighing `10 ^ leading`. -/
def Layout.plain (layout : Layout) (digits : List Char) (leading : Int) : List Char :=
  if leading < 0 then
    '0' :: '.' :: List.replicate (-leading - 1).toNat '0' ++ digits
  else if digits.length ≤ leading.toNat + 1 then
    digits ++ List.replicate (leading.toNat + 1 - digits.length) '0'
      ++ (if layout.fractionAlways then ['.', '0'] else [])
  else
    digits.take (leading.toNat + 1) ++ '.' :: digits.drop (leading.toNat + 1)

/-- Digits with a point after the first one, if more follow, and a signed exponent. -/
def scientific (digits : List Char) (leading : Int) : List Char :=
  let mantissa :=
    match digits with
    | first :: second :: others => first :: '.' :: second :: others
    | few => few
  mantissa ++ 'e' :: (if leading < 0 then '-' else '+') :: Text.decimal leading.natAbs

/-- The text of a finite number. -/
def Layout.finite (layout : Layout) (x : Binary64) : List Char :=
  let decimal := shortest x layout.tie
  let digits := Text.decimal decimal.coefficient
  let leading := decimal.exponent + digits.length - 1
  let magnitude :=
    if layout.positional leading then layout.plain digits leading
    else scientific digits leading
  if x.negative then '-' :: magnitude else magnitude

/-- The text that shows a number to a reader. A NaN has no sign. -/
def display (x : Binary64) : String :=
  if x.isNaN then "NaN"
  else if x.isFinite then String.ofList (Layout.display.finite x)
  else if x.negative then "-inf"
  else "inf"

end EsqlTree.Decimal
