import EsqlTree.Text.Numeral

/-!
# Decimal numerals are read as they were written

A decimal numeral is the text of its digits, and reading takes exactly those off the
front of a text that does not go on with a digit. Two numerals with the same text are
therefore of the same number, also when more text follows.
-/

namespace EsqlTree.Text

/-- The values of the digits of a number, most significant digit first. -/
def digits (n : Nat) : List Nat :=
  if n < 10 then [n] else digits (n / 10) ++ [n % 10]
termination_by n

/-- The decimal numeral is the text of the digits. Both take off the last digit and go on with the
tenth, which is how the recursion goes. -/
theorem decimal_eq_map_digits (n : Nat) : decimal n = (digits n).map digitOf := by
  rw [decimal, digits]
  by_cases short : n < 10
  · rw [if_pos short, if_pos short]
    rfl
  · rw [if_neg short, if_neg short, decimal_eq_map_digits (n / 10), List.map_append]
    rfl
termination_by n

/-- The decimal numeral of a number is the usual one. Both are made digit by digit from the end, so
the induction is on the number without its last digit. -/
theorem decimal_eq_toDigits (n : Nat) : decimal n = Nat.toDigits 10 n := by
  have digit : ∀ value < 10, digitOf value = Nat.digitChar value := by decide
  rw [decimal]
  by_cases short : n < 10
  · rw [if_pos short, Nat.toDigits_of_lt_base short, digit n short]
  · have last : n % 10 < 10 := Nat.mod_lt n (by decide)
    rw [if_neg short, decimal_eq_toDigits (n / 10), digit (n % 10) last,
      Nat.toDigits_of_base_le (by decide) (Nat.not_lt.mp short)]
termination_by n

/-- The text of a decimal numeral is what the number is shown as, by Lean as anywhere else. -/
theorem ofList_decimal (n : Nat) : String.ofList (decimal n) = toString n := by
  rw [decimal_eq_toDigits, Nat.toString_eq_ofList_toDigits]

/-- Every digit is below ten: the last one is a remainder, and the others are digits of the tenth.
-/
theorem lt_ten_of_mem_digits (n : Nat) {digit : Nat} (listed : digit ∈ digits n) : digit < 10 := by
  rw [digits] at listed
  by_cases short : n < 10
  · rw [if_pos short, List.mem_singleton] at listed
    omega
  · rw [if_neg short, List.mem_append, List.mem_singleton] at listed
    rcases listed with higher | last
    · exact lt_ten_of_mem_digits (n / 10) higher
    · omega
termination_by n

/-- The digits of a number denote it. The last one is added to ten times what the others denote. -/
theorem ofDigits_digits (n : Nat) : ofDigits 10 (digits n) = n := by
  rw [digits]
  by_cases short : n < 10
  · rw [if_pos short]
    simp [ofDigits]
  · have higher : ofDigits 10 (digits (n / 10)) = n / 10 := ofDigits_digits (n / 10)
    rw [if_neg short]
    simp only [ofDigits, List.foldl_append, List.foldl_cons, List.foldl_nil] at higher ⊢
    omega
termination_by n

/-- The first digit of a number is zero only if it is the only one. The induction is on
the number, whose first digit is that of its tenth as long as there is more than one. -/
theorem digits_eq_cons (n : Nat) :
    ∃ first others, digits n = first :: others ∧ (first = 0 → others = []) := by
  have leading (n : Nat) : ∃ first others, digits n = first :: others ∧ (first = 0 → n = 0) := by
    induction n using Nat.strongRecOn with
    | ind n smaller =>
      rw [digits]
      by_cases short : n < 10
      · rw [if_pos short]
        exact ⟨n, [], rfl, id⟩
      · obtain ⟨first, others, higher, lead⟩ := smaller (n / 10) (by omega)
        rw [if_neg short, higher]
        refine ⟨first, others ++ [n % 10], rfl, ?_⟩
        intro zero
        have none := lead zero
        omega
  obtain ⟨first, others, written, lead⟩ := leading n
  refine ⟨first, others, written, ?_⟩
  intro zero
  rw [lead zero, digits] at written
  exact (List.cons.inj written).2.symm

/-- The value of a hexadecimal digit is read back from its character. There are sixteen of them. -/
theorem hexValue?_digitOf {value : Nat} (small : value < 16) :
    hexValue? (digitOf value) = some value := by
  have each : ∀ digit : Fin 16, hexValue? (digitOf digit.val) = some digit.val := by decide
  exact each ⟨value, small⟩

/-- The value of a digit is read back from its character. There are ten of them. -/
theorem digitValue?_digitOf {value : Nat} (small : value < 10) :
    digitValue? (digitOf value) = some value := by
  have each : ∀ digit : Fin 10, digitValue? (digitOf digit.val) = some digit.val := by decide
  exact each ⟨value, small⟩

/-- A text that does not begin with a digit. -/
def EndsDigits (text : List Char) : Prop := ∀ c rest, text = c :: rest → digitValue? c = none

/-- No digits are read where none is, and nothing is taken from the text. -/
theorem takeDigits_of_endsDigits {text : List Char} (ends : EndsDigits text) :
    (takeDigits text).value = [] ∧ (takeDigits text).rest = text := by
  cases text with
  | nil => exact ⟨rfl, rfl⟩
  | cons c rest =>
    rw [takeDigits]
    split
    · rename_i value digit
      simp [ends c rest rfl] at digit
    · exact ⟨rfl, rfl⟩

/-- Digits are read as far as they go. The induction is on the digits, each of which is
taken off the front. -/
theorem takeDigits_map_append {values : List Nat} {text : List Char}
    (small : ∀ value ∈ values, value < 10) (ends : EndsDigits text) :
    (takeDigits (values.map digitOf ++ text)).value = values ∧
      (takeDigits (values.map digitOf ++ text)).rest = text := by
  induction values with
  | nil => exact takeDigits_of_endsDigits ends
  | cons value others inOthers =>
    have digit : digitValue? (digitOf value) = some value :=
      digitValue?_digitOf (small value List.mem_cons_self)
    obtain ⟨values, rest⟩ :=
      inOthers fun other listed => small other (List.mem_cons_of_mem _ listed)
    rw [List.map_cons, List.cons_append, takeDigits]
    split
    · rename_i other read
      rw [digit, Option.some.injEq] at read
      subst read
      exact ⟨congrArg (value :: ·) values, rest⟩
    · simp_all

/-- The digits of a numeral are read, and what follows them is left, as long as it does not begin
with a digit. -/
theorem takeDigits_decimal_append (n : Nat) {text : List Char} (ends : EndsDigits text) :
    (takeDigits (decimal n ++ text)).value = digits n ∧
      (takeDigits (decimal n ++ text)).rest = text := by
  rw [decimal_eq_map_digits]
  exact takeDigits_map_append (fun _ => lt_ten_of_mem_digits n) ends

/-- Two numerals with the same text before something else are of the same number, and the same
follows them. Reading the digits off that text gives the digits of either number. -/
theorem decimal_append_inj {m n : Nat} {front back : List Char} (frontEnds : EndsDigits front)
    (backEnds : EndsDigits back) (same : decimal m ++ front = decimal n ++ back) :
    m = n ∧ front = back := by
  obtain ⟨firstDigits, firstRest⟩ := takeDigits_decimal_append m frontEnds
  obtain ⟨secondDigits, secondRest⟩ := takeDigits_decimal_append n backEnds
  rw [same] at firstDigits firstRest
  have sameDigits : digits m = digits n := firstDigits.symm.trans secondDigits
  refine ⟨?_, firstRest.symm.trans secondRest⟩
  rw [← ofDigits_digits m, sameDigits, ofDigits_digits]

end EsqlTree.Text
