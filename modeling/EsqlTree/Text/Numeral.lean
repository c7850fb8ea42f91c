import EsqlTree.Text.Step

/-!
# Numerals

The digits of a number and the number that digits denote, most significant digit
first. Decimal numerals are written without leading zeros, and only the number
zero is written `0`; reading accepts leading zeros. Signs stand apart from the
digits, so the grammar that a caller allows for them stays with the caller.
-/

namespace EsqlTree.Text

/-- The value of a decimal digit. -/
def digitValue? (c : Char) : Option Nat :=
  if '0' ≤ c ∧ c ≤ '9' then some (c.toNat - '0'.toNat) else none

/-- The value of a hexadecimal digit, in either case. -/
def hexValue? (c : Char) : Option Nat :=
  if '0' ≤ c ∧ c ≤ '9' then some (c.toNat - '0'.toNat)
  else if 'a' ≤ c ∧ c ≤ 'f' then some (c.toNat - 'a'.toNat + 10)
  else if 'A' ≤ c ∧ c ≤ 'F' then some (c.toNat - 'A'.toNat + 10)
  else none

/-- True of the ten decimal digits. -/
def isDigit (c : Char) : Bool := (digitValue? c).isSome

/-- True of the hexadecimal digits. -/
def isHexDigit (c : Char) : Bool := (hexValue? c).isSome

/-- The digit of a value below sixteen, letters in lower case. -/
def digitOf (value : Nat) : Char :=
  if value < 10 then Char.ofNat ('0'.toNat + value)
  else Char.ofNat ('a'.toNat + (value - 10))

/-- The values of the digits that a text begins with. -/
def takeDigits : (text : List Char) → Part text (List Nat)
  | [] => .nothing [] []
  | c :: rest =>
    match digitValue? c with
    | some value => (((takeDigits rest).map (value :: ·)).cons c).toPart
    | none => .nothing [] (c :: rest)

/-- The number that digit values denote, in a base. -/
def ofDigits (base : Nat) (digits : List Nat) : Nat :=
  digits.foldl (fun number digit => number * base + digit) 0

/-- The number that a text of decimal digits alone denotes; there is at least one. -/
def natural? (text : List Char) : Option Nat :=
  let digits := takeDigits text
  if digits.value ≠ [] ∧ digits.rest = [] then some (ofDigits 10 digits.value) else none

/-- The decimal numeral of a natural number. -/
def decimal (n : Nat) : List Char :=
  if n < 10 then [digitOf n] else decimal (n / 10) ++ [digitOf (n % 10)]
termination_by n

/-- The decimal numeral of an integer, with a sign only if it is negative. -/
def signedDecimal (n : Int) : List Char :=
  if n < 0 then '-' :: decimal n.natAbs else decimal n.natAbs

/-- The hexadecimal numeral of a natural number. -/
def hexadecimal (n : Nat) : List Char :=
  if n < 16 then [digitOf n] else hexadecimal (n / 16) ++ [digitOf (n % 16)]
termination_by n

/-- The four hexadecimal digits of a number below 65536. -/
def fourHexDigits (n : Nat) : List Char :=
  [digitOf (n / 4096 % 16), digitOf (n / 256 % 16), digitOf (n / 16 % 16), digitOf (n % 16)]

end EsqlTree.Text
