import EsqlTree.Proofs.Json.Rereading
import EsqlTree.Proofs.Text.Integers

/-!
# JSON integers as texts

A JSON numeral without fraction and exponent has no plus and no zero in front. It is read as the
integer that it denotes if that has 64 bits, but negative zero is no integer. Any other one is read
as a floating-point number or refused.
-/

namespace EsqlTree.Json

open Text (AllDigits WritesInteger denoted placeValue)

/-- True of the digits of a JSON integer: decimal digits, and a zero first only if it is the only
one. -/
structure LeadingDigits (digits : List Char) : Prop extends AllDigits digits where
  /-- A zero stands alone. -/
  lead : digits.head? = some '0' → digits = ['0']

/-- True of a JSON numeral without fraction and exponent: digits behind a minus or behind
nothing. -/
inductive IntegerText : List Char → Prop where
  | plain {digits : List Char} (whole : LeadingDigits digits) : IntegerText digits
  | minus {digits : List Char} (whole : LeadingDigits digits) : IntegerText ('-' :: digits)

/-- The values of the digits of a JSON integer, of which there is a first one. What the digits
denote is the number of these values, and a first value of zero has none behind it. -/
theorem LeadingDigits.values {digits : List Char} (whole : LeadingDigits digits) :
    ∃ first others, digits = (first :: others).map Text.digitOf ∧
      (∀ digit ∈ first :: others, digit < 10) ∧ (first = 0 → others = []) ∧
      denoted digits = Text.ofDigits 10 (first :: others) := by
  cases digits with
  | nil => exact absurd rfl whole.nonempty
  | cons c rest =>
    have back : ∀ d ∈ c :: rest, Text.digitOf (placeValue d) = d ∧ placeValue d < 10 :=
      fun d listed => Text.digitOf_placeValue (whole.each d listed)
    refine ⟨placeValue c, rest.map placeValue, ?_, ?_, ?_, ?_⟩
    · rw [← List.map_cons, List.map_map]
      calc c :: rest = (c :: rest).map id := (List.map_id _).symm
        _ = (c :: rest).map (Text.digitOf ∘ placeValue) :=
          List.map_congr_left fun d listed => (back d listed).1.symm
    · rw [← List.map_cons, List.forall_mem_map]
      exact fun d listed => (back d listed).2
    · intro zero
      have isZero : c = '0' := by
        rw [← (back c List.mem_cons_self).1, zero]
        rfl
      have alone := whole.lead (by rw [isZero, List.head?_cons])
      rw [(List.cons.inj alone).2, List.map_nil]
    · rw [Text.ofDigits_eq, denoted, List.map_reverse, List.map_cons]

/-- A JSON integer as whole digits with a sign: the integer that its text denotes is theirs, and it
is negative zero in one text alone. So the laws about digits that are written hold of digits that
are found in a text. -/
theorem IntegerText.digits {text : List Char} (integral : IntegerText text) :
    ∃ negative first others, text = wholeText negative (first :: others) ∧
      (∀ digit ∈ first :: others, digit < 10) ∧ (first = 0 → others = []) ∧
      WritesInteger text (Numeral.ofDigits negative (first :: others)).integer ∧
      ((negative = true ∧ (Numeral.ofDigits negative (first :: others)).integer = 0) ↔
        text = ['-', '0']) := by
  cases integral with
  | plain whole =>
    obtain ⟨first, others, spelled, small, lead, value⟩ := whole.values
    refine ⟨false, first, others, spelled, small, lead, ?_, ?_⟩
    · have written := WritesInteger.plain whole.toAllDigits
      rwa [value] at written
    · constructor
      · rintro ⟨minus, _⟩
        contradiction
      · rintro rfl
        exact absurd (whole.each '-' List.mem_cons_self) (by decide)
  | @minus digits whole =>
    obtain ⟨first, others, spelled, small, lead, value⟩ := whole.values
    refine ⟨true, first, others, congrArg ('-' :: ·) spelled, small, lead, ?_, ?_⟩
    · have written := WritesInteger.minus whole.toAllDigits
      rwa [value] at written
    · constructor
      · -- Digits of the value zero are all zero, and a zero is the first only if it is alone.
        rintro ⟨_, zero⟩
        have none : Text.ofDigits 10 (first :: others) = 0 := by
          simpa [Numeral.integer, Numeral.ofDigits] using zero
        rw [Text.ofDigits_eq] at none
        have isZero : first = 0 := by
          refine Nat.digits_zero_of_eq_zero (by decide) none first ?_
          simp
        rw [spelled, isZero, lead isZero]
        rfl
      · intro text
        obtain rfl : digits = ['0'] := (List.cons.inj text).2
        refine ⟨rfl, ?_⟩
        have zero : denoted ['0'] = 0 := by decide
        simp [Numeral.integer, Numeral.ofDigits, ← value, zero]

/-- Whole digits as a text are read as the number that they are of, if they are of one. Nothing
follows them, so the numeral ends with the text. -/
theorem read_whole_eq_ok_iff {text : String} {negative : Bool} {first : Nat} {others : List Nat}
    {number : Number} (spelled : text.toList = wholeText negative (first :: others))
    (small : ∀ digit ∈ first :: others, digit < 10) (lead : first = 0 → others = []) :
    Json.read text = .ok (.number number) ↔
      (Numeral.ofDigits negative (first :: others)).number? = some number := by
  have ends : EndsNumeral [] := by rintro c rest ⟨⟩
  obtain ⟨yields, refused⟩ := readValue_whole nestingLimit negative small lead ends
  rw [List.append_nil] at yields refused
  rw [Json.read, spelled]
  cases denoted : (Numeral.ofDigits negative (first :: others)).number? with
  | some other =>
    obtain ⟨shorter, readWhole⟩ := yields other denoted
    simp [readRoot, readWhole, bind, Except.bind, skipBlanks]
  | none =>
    obtain ⟨failure, readWhole⟩ := refused denoted
    simp [readRoot, readWhole, bind, Except.bind]

/-- A number that is no integer is a floating-point number, and is only read if it is finite. -/
theorem Numeral.eq_float_of_float? {numeral : Numeral} {number : Number}
    (read : numeral.float? = some number) : ∃ x, number = .float x := by
  unfold Numeral.float? Number.ofBinary64? at read
  split at read
  · contradiction
  · split at read
    · exact ⟨_, (Option.some.inj read).symm⟩
    · contradiction

/-- A JSON integer is read as the integer that it denotes if 64 bits hold that, negative zero apart;
and if it is read otherwise, it is as a floating-point number. -/
theorem IntegerText.read {text : String} (integral : IntegerText text.toList) :
    ∃ n, WritesInteger text.toList n ∧
      (text ≠ "-0" ∧ -9223372036854775808 ≤ n ∧ n ≤ 18446744073709551615 →
        ∃ m : Integer, m.val = n ∧ Json.read text = .ok (.number (.integer m))) ∧
      (¬ (text ≠ "-0" ∧ -9223372036854775808 ≤ n ∧ n ≤ 18446744073709551615) →
        ∀ number, Json.read text = .ok (.number number) → ∃ x, number = .float x) := by
  obtain ⟨negative, first, others, spelled, small, lead, written, zero⟩ := integral.digits
  have named : text.toList = ['-', '0'] ↔ text = "-0" := by
    rw [← String.toList_inj]
    rfl
  rw [named] at zero
  refine ⟨_, written, ?_, ?_⟩
  · rintro ⟨noZero, lower, upper⟩
    refine ⟨⟨_, lower, by omega⟩, rfl, ?_⟩
    rw [read_whole_eq_ok_iff spelled small lead]
    exact Numeral.number?_of_plain rfl (fun signed => noZero (zero.mp signed)) rfl
  · intro outside number read
    rw [read_whole_eq_ok_iff spelled small lead, Numeral.number?] at read
    split at read
    · rename_i signed
      split at read
      · rename_i bounds
        exact absurd ⟨fun text => signed.2 (zero.mpr text), bounds.1, by omega⟩ outside
      · exact Numeral.eq_float_of_float? read
    · exact Numeral.eq_float_of_float? read

end EsqlTree.Json
