import EsqlTree.Decimal.Binary64
import EsqlTree.Text.Ascii
import EsqlTree.Text.Numeral

/-!
# Reading a floating-point number

A number is an optional sign followed by digits with an optional point and an
optional exponent, or by one of the words for infinity and NaN in any case. The
point may stand first or last, but not alone. The result is the number nearest to
the decimal, whatever its length; there is no blank anywhere, and nothing may
follow.
-/

namespace EsqlTree.Decimal

/-- An optional sign, negative only if it is a minus, and the rest of the text. -/
def takeSign : List Char → Bool × List Char
  | '-' :: rest => (true, rest)
  | '+' :: rest => (false, rest)
  | rest => (false, rest)

/-- The number nearest to digits weighed by a power of ten. A decimal whose
leading digit is out of reach is not expanded: above the greatest number it rounds
to infinity, and below half the least positive one to zero. -/
def ofDigits (negative : Bool) (digits : List Nat) (exponent : Int) : Binary64 :=
  let significant := digits.dropWhile (· == 0)
  let leading := exponent + significant.length - 1
  let coefficient := Text.ofDigits 10 significant
  if significant.isEmpty then Binary64.zero negative
  else if 308 < leading then Binary64.infinity negative
  else if leading < -325 then Binary64.zero negative
  else Binary64.ofQuotient negative
    (coefficient * Nat.pow 10 exponent.toNat) (Nat.pow 10 (-exponent).toNat)

/-- The power of ten that an exponent part gives; an absent part gives zero. -/
def exponent? : List Char → Option Int
  | [] => some 0
  | mark :: rest =>
    if mark = 'e' ∨ mark = 'E' then
      let (negative, digits) := takeSign rest
      (Text.natural? digits).map fun power => if negative then -(power : Int) else power
    else none

/-- The number of a text without its sign. -/
def unsigned? (negative : Bool) (text : List Char) : Option Binary64 :=
  let word := text.map Text.lowerChar
  if word = ['i', 'n', 'f'] ∨ word = ['i', 'n', 'f', 'i', 'n', 'i', 't', 'y'] then
    some (Binary64.infinity negative)
  else if word = ['n', 'a', 'n'] then some (Binary64.quietNaN negative)
  else
    let whole := Text.takeDigits text
    let (fraction, afterFraction) :=
      match whole.rest with
      | '.' :: rest => ((Text.takeDigits rest).value, (Text.takeDigits rest).rest)
      | rest => ([], rest)
    if whole.value.isEmpty && fraction.isEmpty then none
    else
      (exponent? afterFraction).map fun power =>
        ofDigits negative (whole.value ++ fraction) (power - fraction.length)

/-- The number nearest to what a text denotes. -/
def read? (text : String) : Option Binary64 :=
  let (negative, rest) := takeSign text.toList
  unsigned? negative rest

end EsqlTree.Decimal
