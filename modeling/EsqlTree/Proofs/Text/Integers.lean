import EsqlTree.Decimal.Reading
import EsqlTree.Proofs.Text.Numeral
import Mathlib.Data.List.TakeWhile
import Mathlib.Data.Nat.Digits.Defs

/-!
# Numerals of integers

What a text of digits denotes is said here by the places of its digits, and not by the way in which
they are read: a numeral is at least one decimal digit, behind one sign or none. Reading digits
succeeds on these texts and on no others, and yields what they denote. The decimal numeral of an
integer denotes that integer.
-/

namespace EsqlTree.Text

/-- True of a text of decimal digits alone, of which there is at least one. -/
structure AllDigits (text : List Char) : Prop where
  /-- There is a digit. -/
  nonempty : text ≠ []
  /-- There is nothing else. -/
  each : ∀ c ∈ text, c.isDigit = true

/-- The value of a character as a decimal digit. -/
def placeValue (c : Char) : Nat := c.toNat - '0'.toNat

/-- The number that a text of decimal digits denotes: the last digit counts once, and each other ten
times as much as it would one place further behind. -/
def denoted (text : List Char) : Nat := Nat.ofDigits 10 (text.reverse.map placeValue)

/-- Digits are what has a value as a digit. The range that is checked is the one that Lean's own
test is about. -/
theorem digitValue?_eq (c : Char) :
    digitValue? c = if c.isDigit then some (placeValue c) else none := by
  have same : ('0' ≤ c ∧ c ≤ '9') ↔ c.isDigit = true := by
    simp only [Char.isDigit, Char.le_def, Bool.and_eq_true, decide_eq_true_eq, ge_iff_le]
  simp only [digitValue?, same, placeValue]

/-- The character of a digit's value is the digit. Digits lie in a row in ASCII, from the code point
48 on. -/
theorem digitOf_placeValue {c : Char} (digit : c.isDigit = true) :
    digitOf (placeValue c) = c ∧ placeValue c < 10 := by
  simp only [Char.isDigit, Bool.and_eq_true, decide_eq_true_eq, ge_iff_le] at digit
  have lower : 48 ≤ c.toNat := UInt32.le_iff_toNat_le.mp digit.1
  have upper : c.toNat ≤ 57 := UInt32.le_iff_toNat_le.mp digit.2
  have small : placeValue c < 10 := by
    simp only [placeValue, Char.reduceToNat]
    omega
  refine ⟨?_, small⟩
  have whole : 48 + placeValue c = c.toNat := by
    simp only [placeValue, Char.reduceToNat]
    omega
  rw [digitOf, if_pos small]
  simp only [Char.reduceToNat, whole, Char.ofNat_toNat]

/-- The digits that a text begins with are read, and the rest is left. So reading them is cutting
the text where the first other character stands. -/
theorem takeDigits_eq (text : List Char) :
    (takeDigits text).value = (text.takeWhile Char.isDigit).map placeValue ∧
      (takeDigits text).rest = text.dropWhile Char.isDigit := by
  induction text with
  | nil => exact ⟨rfl, rfl⟩
  | cons c rest inRest =>
    rw [takeDigits]
    by_cases digit : c.isDigit = true
    · rw [List.takeWhile_cons_of_pos digit, List.dropWhile_cons_of_pos digit]
      split
      · rename_i value read
        rw [digitValue?_eq, if_pos digit, Option.some.injEq] at read
        subst read
        exact ⟨congrArg (placeValue c :: ·) inRest.1, inRest.2⟩
      · rename_i none
        simp [digitValue?_eq, digit] at none
    · rw [List.takeWhile_cons_of_neg digit, List.dropWhile_cons_of_neg digit]
      split
      · rename_i value read
        simp [digitValue?_eq, digit] at read
      · exact ⟨rfl, rfl⟩

/-- Digits that are summed from the first on denote what they do by their places, which are counted
from the last. -/
theorem ofDigits_eq (digits : List Nat) : ofDigits 10 digits = Nat.ofDigits 10 digits.reverse := by
  rw [Nat.ofDigits_eq_foldr, List.foldr_reverse, ofDigits]
  congr 1
  funext number digit
  simp only [Nat.cast_id]
  omega

/-- A natural number is read from digits alone, and it is what they denote. A text with no digit or
with anything behind the digits is none. -/
theorem natural?_eq_some_iff {text : List Char} {n : Nat} :
    natural? text = some n ↔ AllDigits text ∧ denoted text = n := by
  obtain ⟨value, rest⟩ := takeDigits_eq text
  simp only [natural?, value, rest, Option.ite_none_right_eq_some, Option.some.injEq]
  constructor
  · rintro ⟨⟨some, none⟩, rfl⟩
    have each : ∀ c ∈ text, c.isDigit = true := List.dropWhile_eq_nil_iff.mp none
    rw [List.takeWhile_eq_self_iff.mpr each] at some ⊢
    refine ⟨⟨?_, each⟩, ?_⟩
    · rintro rfl
      exact some rfl
    · rw [ofDigits_eq, denoted, List.map_reverse]
  · rintro ⟨⟨nonempty, each⟩, rfl⟩
    rw [List.takeWhile_eq_self_iff.mpr each]
    refine ⟨⟨?_, List.dropWhile_eq_nil_iff.mpr each⟩, ?_⟩
    · simpa using nonempty
    · rw [ofDigits_eq, denoted, List.map_reverse]

/-- The decimal numeral of a number is of digits alone, which denote it, since they are read and
nothing is left. -/
theorem natural?_decimal (n : Nat) : natural? (decimal n) = some n := by
  have ends : EndsDigits [] := by rintro c rest ⟨⟩
  obtain ⟨value, rest⟩ := takeDigits_decimal_append n ends
  rw [List.append_nil] at value rest
  obtain ⟨first, others, some, _⟩ := digits_eq_cons n
  have nonempty : digits n ≠ [] := by
    rw [some]
    exact List.cons_ne_nil first others
  simp only [natural?, value, rest, nonempty, ne_eq, not_false_eq_true, and_self, if_true,
    ofDigits_digits]

/-- True of a text and an integer that it denotes: digits, behind a plus, a minus or no sign. -/
inductive WritesInteger : List Char → Int → Prop where
  | plain {digits : List Char} (whole : AllDigits digits) : WritesInteger digits (denoted digits)
  | plus {digits : List Char} (whole : AllDigits digits) :
      WritesInteger ('+' :: digits) (denoted digits)
  | minus {digits : List Char} (whole : AllDigits digits) :
      WritesInteger ('-' :: digits) (-denoted digits)

/-- No sign is taken off digits, as neither of the two signs is one. -/
theorem takeSign_of_allDigits {text : List Char} (whole : AllDigits text) :
    Decimal.takeSign text = (false, text) := by
  unfold Decimal.takeSign
  split
  · exact absurd (whole.each '-' List.mem_cons_self) (by decide)
  · exact absurd (whole.each '+' List.mem_cons_self) (by decide)
  · rfl

/-- The integer that a text denotes is the number of its digits with its sign. The sign is taken off
first, and without one the number is not negative. -/
theorem writesInteger_iff {text : List Char} {n : Int} :
    WritesInteger text n ↔ ∃ magnitude : Nat,
      natural? (Decimal.takeSign text).2 = some magnitude ∧
        n = if (Decimal.takeSign text).1 then -(magnitude : Int) else magnitude := by
  constructor
  · intro written
    cases written with
    | plain whole =>
      rw [takeSign_of_allDigits whole]
      exact ⟨denoted text, natural?_eq_some_iff.mpr ⟨whole, rfl⟩, rfl⟩
    | plus whole => exact ⟨_, natural?_eq_some_iff.mpr ⟨whole, rfl⟩, rfl⟩
    | minus whole => exact ⟨_, natural?_eq_some_iff.mpr ⟨whole, rfl⟩, rfl⟩
  · rintro ⟨magnitude, read, rfl⟩
    obtain ⟨whole, rfl⟩ := natural?_eq_some_iff.mp read
    revert whole
    unfold Decimal.takeSign
    split
    · exact .minus
    · exact .plus
    · exact .plain

/-- A text denotes one integer at most, because its sign and its digits are told from it. -/
theorem WritesInteger.unique {text : List Char} {m n : Int} (first : WritesInteger text m)
    (second : WritesInteger text n) : m = n := by
  obtain ⟨_, readFirst, rfl⟩ := writesInteger_iff.mp first
  obtain ⟨_, readSecond, rfl⟩ := writesInteger_iff.mp second
  rw [Option.some.inj (readFirst.symm.trans readSecond)]

/-- The decimal numeral of an integer denotes it. A minus stands in front only if the integer is
negative. -/
theorem writesInteger_signedDecimal (n : Int) : WritesInteger (signedDecimal n) n := by
  obtain ⟨whole, magnitude⟩ := natural?_eq_some_iff.mp (natural?_decimal n.natAbs)
  rw [signedDecimal]
  by_cases negative : n < 0
  · have value : -(n.natAbs : Int) = n := by omega
    have written := WritesInteger.minus whole
    rw [magnitude, value] at written
    rwa [if_pos negative]
  · have value : (n.natAbs : Int) = n := by omega
    have written := WritesInteger.plain whole
    rw [magnitude, value] at written
    rwa [if_neg negative]

/-- The decimal numeral of a natural number denotes it, without a sign. -/
theorem writesInteger_decimal (n : Nat) : WritesInteger (decimal n) n := by
  obtain ⟨whole, magnitude⟩ := natural?_eq_some_iff.mp (natural?_decimal n)
  have written := WritesInteger.plain whole
  rwa [magnitude] at written

end EsqlTree.Text
