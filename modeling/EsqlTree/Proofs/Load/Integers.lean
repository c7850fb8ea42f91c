import EsqlTree.Proofs.Json.Integers
import EsqlTree.Proofs.Load.SecondLoad

/-!
# Integers by text and by number

An integer literal has its value from its source text, or from a JSON number that is given. The two
have grammars of their own. A text may have a plus and zeros in front, and what it denotes is a
signed integer of 64 bits if one holds it, and else an unsigned one; any other text stays a string.
A JSON number is an integer within the same bounds, but a negative zero is not one. So for a numeral
that both grammars admit the two agree within the bounds, negative zero apart, and nowhere else.
-/

namespace EsqlTree

open Json (Members lookup)
open Text (WritesInteger denoted)

namespace Scalar

/-- The signed integer of a text is the one that it denotes. The reader checks the bounds of 64 bits
before it converts, so what it returns is the integer and not what is left of it. -/
theorem int64?_eq_some_iff {text : List Char} {k : Int64} :
    int64? text = some k ↔ WritesInteger text k.toInt := by
  rw [Text.writesInteger_iff]
  rcases sign : Decimal.takeSign text with ⟨negative, digits⟩
  unfold int64?
  rw [sign]
  constructor
  · intro read
    cases whole : Text.natural? digits with
    | none => simp [whole] at read
    | some magnitude =>
      simp only [whole, Option.ite_none_right_eq_some, Option.some.injEq] at read
      obtain ⟨⟨lower, upper⟩, rfl⟩ := read
      refine ⟨magnitude, rfl, ?_⟩
      exact Int64.toInt_ofInt_of_le lower (by omega)
  · rintro ⟨magnitude, whole, value⟩
    have lower : -9223372036854775808 ≤ k.toInt := k.le_toInt
    have upper : k.toInt ≤ 9223372036854775807 := Int.le_of_lt_add_one k.toInt_lt
    simp only [whole, ← value, lower, upper, and_self, if_true, Int64.ofInt_toInt]

/-- The unsigned integer of a text is the one that it denotes, no minus standing in front. -/
theorem uint64?_eq_some_iff {text : List Char} {k : UInt64} :
    uint64? text = some k ↔ WritesInteger text k.toNat ∧ text.head? ≠ some '-' := by
  have bounded : bounded? k.toNat = some k := by
    have small : k.toNat ≤ 18446744073709551615 := Nat.le_of_lt_succ k.toNat_lt
    rw [bounded?, if_pos small, UInt64.ofNat_toNat]
  constructor
  · intro read
    obtain ⟨digits, sign, value⟩ := natural?_of_uint64? read
    constructor
    · refine Text.writesInteger_iff.mpr ⟨k.toNat, ?_, ?_⟩
      · rw [sign, value]
      · rw [sign, if_neg Bool.false_ne_true]
    · intro minus
      obtain ⟨rest, rfl⟩ := List.head?_eq_some_iff.mp minus
      simp [Decimal.takeSign] at sign
  · rintro ⟨written, noMinus⟩
    -- Of the signs, unsigned integers are read behind a plus, but a minus is no digit to them.
    generalize whole : (k.toNat : Int) = n at written
    cases written with
    | plain digits =>
      have noPlus : ∀ rest, text ≠ '+' :: rest := by
        rintro rest rfl
        exact absurd (digits.each '+' List.mem_cons_self) (by decide)
      have value : denoted text = k.toNat := by omega
      rw [uint64?_plain noPlus, Text.natural?_eq_some_iff.mpr ⟨digits, value⟩, Option.bind_some,
        bounded]
    | @plus rest digits =>
      have value : denoted rest = k.toNat := by omega
      rw [uint64?_plus, Text.natural?_eq_some_iff.mpr ⟨digits, value⟩, Option.bind_some, bounded]
    | minus digits => exact absurd rfl noMinus

/-- An integer that a text denotes within the signed bounds is read as a signed one. -/
theorem exists_int64?_of_writes {text : List Char} {n : Int} (written : WritesInteger text n)
    (lower : -9223372036854775808 ≤ n) (upper : n ≤ 9223372036854775807) :
    ∃ k : Int64, int64? text = some k ∧ k.toInt = n := by
  have value : (Int64.ofInt n).toInt = n := Int64.toInt_ofInt_of_le lower (by omega)
  refine ⟨Int64.ofInt n, ?_, value⟩
  rwa [int64?_eq_some_iff, value]

/-- An integer that a text denotes above the signed bounds and within the unsigned ones is read as
an unsigned one, and no minus stands in front of it. -/
theorem exists_uint64?_of_writes {text : List Char} {n : Int} (written : WritesInteger text n)
    (lower : 9223372036854775807 < n) (upper : n ≤ 18446744073709551615) :
    text.head? ≠ some '-' ∧ ∃ k : UInt64, uint64? text = some k ∧ (k.toNat : Int) = n := by
  have value : ((UInt64.ofNat n.toNat).toNat : Int) = n :=
    Load.toNat_uint64 (by omega) (by omega)
  have noMinus : text.head? ≠ some '-' := by
    cases written with
    | plain digits =>
      intro minus
      obtain ⟨rest, rfl⟩ := List.head?_eq_some_iff.mp minus
      exact absurd (digits.each '-' List.mem_cons_self) (by decide)
    | plus digits => simp
    | minus digits => omega
  refine ⟨noMinus, UInt64.ofNat n.toNat, ?_, value⟩
  rw [uint64?_eq_some_iff, value]
  exact ⟨written, noMinus⟩

/-- No signed integer is read of a text that denotes one above the signed bounds. -/
theorem int64?_eq_none_of_writes {text : List Char} {n : Int} (written : WritesInteger text n)
    (large : 9223372036854775807 < n) : int64? text = none := by
  cases read : int64? text with
  | none => rfl
  | some k =>
    have same : k.toInt = n := (int64?_eq_some_iff.mp read).unique written
    have upper := k.toInt_lt
    omega

/-- The type integer makes a signed integer of the texts that denote one. Signed integers are tried
first, so unsigned ones do not come in between. -/
theorem ofText_eq_integer_iff {text : String} {k : Int64} :
    ofText .integer text = .integer k ↔ WritesInteger text.toList k.toInt := by
  rw [← int64?_eq_some_iff]
  cases signed : int64? text.toList with
  | some m => simp [ofText, signed]
  | none => cases read : uint64? text.toList <;> simp [ofText, signed, read]

/-- The type integer makes an unsigned integer of the texts that denote one above the signed bounds.
Below them the signed one is found first. -/
theorem ofText_eq_unsigned_iff {text : String} {k : UInt64} :
    ofText .integer text = .unsigned k ↔
      WritesInteger text.toList k.toNat ∧ 9223372036854775807 < k.toNat := by
  constructor
  · intro made
    refine ⟨?_, large_of_ofText made⟩
    cases signed : int64? text.toList with
    | some m => simp [ofText, signed] at made
    | none =>
      cases read : uint64? text.toList with
      | none => simp [ofText, signed, read] at made
      | some m =>
        simp only [ofText, signed, read, Scalar.unsigned.injEq] at made
        subst made
        exact (uint64?_eq_some_iff.mp read).1
  · rintro ⟨written, large⟩
    have upper : (k.toNat : Int) ≤ 18446744073709551615 := by
      have bound := k.toNat_lt
      omega
    obtain ⟨_, m, read, same⟩ := exists_uint64?_of_writes written (by omega) upper
    obtain rfl : m = k := UInt64.toNat_inj.mp (by omega)
    simp only [ofText, int64?_eq_none_of_writes written (by omega), read]

/-- The type integer leaves a text a string if it denotes no integer within the bounds. A text that
denotes nothing at all fulfils this too. -/
theorem ofText_eq_string_iff {text : String} :
    ofText .integer text = .string text ↔
      ∀ n, WritesInteger text.toList n → n < -9223372036854775808 ∨ 18446744073709551615 < n := by
  constructor
  · intro made n written
    by_contra within
    rw [not_or, Int.not_lt, Int.not_lt] at within
    by_cases small : n ≤ 9223372036854775807
    · obtain ⟨k, read, _⟩ := exists_int64?_of_writes written within.1 small
      simp [ofText, read] at made
    · have large : 9223372036854775807 < n := by omega
      obtain ⟨_, k, read, _⟩ := exists_uint64?_of_writes written large within.2
      simp [ofText, int64?_eq_none_of_writes written large, read] at made
  · intro outside
    cases signed : int64? text.toList with
    | some k =>
      have bounds := outside _ (int64?_eq_some_iff.mp signed)
      have lower := k.le_toInt
      have upper := k.toInt_lt
      omega
    | none =>
      cases read : uint64? text.toList with
      | some k =>
        have bounds := outside _ (uint64?_eq_some_iff.mp read).1
        have upper := k.toNat_lt
        omega
      | none => simp only [ofText, signed, read]

/-- The type integer makes an integer of a text, or leaves the text a string; a decimal is never
made. -/
theorem ofText_integer_cases (text : String) :
    (∃ k, ofText .integer text = .integer k) ∨ (∃ k, ofText .integer text = .unsigned k) ∨
      ofText .integer text = .string text := by
  cases signed : int64? text.toList with
  | some k => exact .inl ⟨k, by simp only [ofText, signed]⟩
  | none =>
    cases read : uint64? text.toList with
    | some k => exact .inr (.inl ⟨k, by simp only [ofText, signed, read]⟩)
    | none => exact .inr (.inr (by simp only [ofText, signed, read]))

/-- What the type integer makes of a text is made of its display again. The display has no plus and
no zeros in front, but it denotes the same integer. -/
theorem ofText_display (text : String) :
    ofText .integer (ofText .integer text).display = ofText .integer text := by
  rcases ofText_integer_cases text with ⟨k, made⟩ | ⟨k, made⟩ | made
  · rw [made, ofText_eq_integer_iff, display, String.toList_ofList]
    exact Text.writesInteger_signedDecimal k.toInt
  · rw [made, ofText_eq_unsigned_iff, display, String.toList_ofList]
    exact ⟨Text.writesInteger_decimal k.toNat, large_of_ofText made⟩
  · rw [made, display, made]

/-- The type integer makes of a text what a JSON integer has as its value that the text denotes.
Both are told by the same bounds. -/
theorem ofText_eq_ofNumber {text : String} {n : Json.Integer}
    (written : WritesInteger text.toList n.val) :
    ofText .integer text = ofNumber (.integer n) := by
  have holds := holds_ofNumber (.integer n)
  generalize ofNumber (.integer n) = value at holds ⊢
  cases holds with
  | integer small same =>
    rw [ofText_eq_integer_iff, same]
    exact written
  | unsigned large same =>
    rw [ofText_eq_unsigned_iff, same]
    exact ⟨written, by omega⟩

end Scalar

/-- An integer literal is loaded from the members of an object. -/
structure Load.ReadsInteger (members : Members) (path : Path) (node : Literal) : Prop where
  /-- The object is loaded as the literal. -/
  loaded : Load.item Kind.literal.tag members path = .ok (.atom (.literal node))
  /-- The literal is said to be an integer. -/
  type : node.literalType = .integer

/-- It is enough that the header is read and then the fields of the literal, for an item with its
tag is nothing else. -/
theorem Load.ReadsInteger.of_literal {members : Members} {path : Path} {header : Header}
    {node : Literal} (common : Load.header members path = .ok header)
    (own : Load.literal header members path = .ok node) (type : node.literalType = .integer) :
    Load.ReadsInteger members path node where
  loaded := by
    rw [Load.item_literal_eq common, own]
    rfl
  type := type

/-- The value of a literal agrees with the members that it is loaded from. This is part of what is
known of every item that is loaded. -/
theorem Load.scalarReading_of_item {members : Members} {path : Path} {node : Literal}
    (loaded : Load.item Kind.literal.tag members path = .ok (.atom (.literal node))) :
    ScalarReading members node.literalType node.text node.value := by
  obtain ⟨_, _, own⟩ := itemReading_of_ok _ members path _ loaded
  cases own with
  | atom own =>
    cases own with
    | literal type value paramType kind => exact value

/-- The value that is given as a number is the value of that number. Reading once more gives the
same, which rules out all other values that are written so. -/
theorem ScalarReading.eq_ofNumber {members : Members} {type : LiteralType} {text : String}
    {value : Scalar} {number : Json.Number} (reading : ScalarReading members type text value)
    (given : lookup "value" members = some (.number number)) : value = .ofNumber number := by
  cases reading with
  | written found lasts =>
    have read : Load.scalar type text members {} = .ok value.reread := Load.scalar_eq_ok found
    rw [lasts] at read
    simpa [Load.scalar, Field.key, given, eq_comm] using read
  | ofText absent => simp [given] at absent

/-- Where no value is given, the value is what the type makes of the text, since nothing was found
that it could be read from. -/
theorem ScalarReading.eq_ofText {members : Members} {type : LiteralType} {text : String}
    {value : Scalar} (reading : ScalarReading members type text value)
    (absent : lookup "value" members = none) : value = .ofText type text := by
  cases reading with
  | written found lasts => simp [absent] at found
  | ofText _ => rfl

/-- The type integer makes a signed integer, an unsigned one or a string of a text by what the text
denotes, and what it makes is made of its display again. A JSON integer as the value of a literal
has the value that the same numeral has as the text of one exactly if it is within the bounds and no
negative zero, and every such numeral is read.

Proof: a text of the grammar writes one integer, and the two readers of bounded integers accept it
exactly within their bounds. The text of a number and the number read from it are therefore compared
through the integer that both stand for. -/
theorem integer_texts_read :
    (∀ text n, (∃ k : Int64, Scalar.ofText .integer text = .integer k ∧ k.toInt = n) ↔
      WritesInteger text.toList n ∧ -9223372036854775808 ≤ n ∧ n ≤ 9223372036854775807) ∧
    (∀ text n, (∃ k : UInt64, Scalar.ofText .integer text = .unsigned k ∧ (k.toNat : Int) = n) ↔
      WritesInteger text.toList n ∧ text.toList.head? ≠ some '-' ∧
        9223372036854775808 ≤ n ∧ n ≤ 18446744073709551615) ∧
    (∀ text, Scalar.ofText .integer text = .string text ↔ ∀ n, WritesInteger text.toList n →
      ¬ (-9223372036854775808 ≤ n ∧ n ≤ 18446744073709551615)) ∧
    (∀ text, Scalar.ofText .integer (Scalar.ofText .integer text).display =
      Scalar.ofText .integer text) ∧
    ∀ numeral : String, Json.IntegerText numeral.toList → ∃ n, WritesInteger numeral.toList n ∧
      (numeral ≠ "-0" ∧ -9223372036854775808 ≤ n ∧ n ≤ 18446744073709551615 →
        ∃ number, Json.read numeral = .ok (.number number)) ∧
      ∀ number, Json.read numeral = .ok (.number number) →
        ∀ numbered path first, Load.ReadsInteger numbered path first →
          lookup "value" numbered = some (.number number) →
        ∀ lettered path second, Load.ReadsInteger lettered path second →
          lookup "value" lettered = none → second.text = numeral →
        (first.value = second.value ↔
          numeral ≠ "-0" ∧ -9223372036854775808 ≤ n ∧ n ≤ 18446744073709551615) := by
  refine ⟨?_, ?_, ?_, Scalar.ofText_display, ?_⟩
  · intro text n
    simp only [Scalar.ofText_eq_integer_iff]
    constructor
    · rintro ⟨k, written, rfl⟩
      exact ⟨written, k.le_toInt, Int.le_of_lt_add_one k.toInt_lt⟩
    · rintro ⟨written, lower, upper⟩
      obtain ⟨k, _, value⟩ := Scalar.exists_int64?_of_writes written lower upper
      exact ⟨k, by rwa [value], value⟩
  · intro text n
    simp only [Scalar.ofText_eq_unsigned_iff]
    constructor
    · rintro ⟨k, ⟨written, large⟩, rfl⟩
      have upper : (k.toNat : Int) ≤ 18446744073709551615 := by
        have bound := k.toNat_lt
        omega
      obtain ⟨noMinus, _⟩ := Scalar.exists_uint64?_of_writes written (by omega) upper
      exact ⟨written, noMinus, by omega, upper⟩
    · rintro ⟨written, _, lower, upper⟩
      obtain ⟨_, k, _, value⟩ := Scalar.exists_uint64?_of_writes written (by omega) upper
      exact ⟨k, ⟨by rwa [value], by omega⟩, value⟩
  · intro text
    rw [Scalar.ofText_eq_string_iff]
    refine forall₂_congr fun n written => ?_
    omega
  · intro numeral integral
    obtain ⟨n, written, inside, outside⟩ := integral.read
    refine ⟨n, written, ?_, ?_⟩
    · intro within
      obtain ⟨m, _, read⟩ := inside within
      exact ⟨_, read⟩
    · intro number read numbered path first loaded given lettered path' second loaded' absent text
      have numberValue : first.value = .ofNumber number :=
        (Load.scalarReading_of_item loaded.loaded).eq_ofNumber given
      have textValue : second.value = .ofText .integer numeral := by
        rw [(Load.scalarReading_of_item loaded'.loaded).eq_ofText absent, loaded'.type, text]
      rw [numberValue, textValue]
      constructor
      · intro same
        by_contra notWithin
        obtain ⟨x, rfl⟩ := outside notWithin number read
        have decimal := (Scalar.ofText_eq_decimal_iff.mp same.symm).1
        contradiction
      · intro within
        obtain ⟨m, rfl, readInteger⟩ := inside within
        obtain rfl : Json.Number.integer m = number := by
          rw [readInteger] at read
          simpa using read
        exact (Scalar.ofText_eq_ofNumber written).symm

/-- The object of an integer literal with one member that says which. -/
def integerObject (key : String) (value : Json.Value) : Members :=
  [("type", .string "literal"), ("literalType", .string "integer"), (key, value)]

/-- The greatest unsigned integer has one value as a number and as a text. Negative zero is loaded
either way, but with two values. -/
theorem integer_texts_read_limits :
    (∃ number first second, Json.read "18446744073709551615" = .ok (.number number) ∧
      Load.ReadsInteger (integerObject "value" (.number number)) {} first ∧
      Load.ReadsInteger (integerObject "text" (.string "18446744073709551615")) {} second ∧
      first.value = second.value) ∧
    ∃ number first second, Json.read "-0" = .ok (.number number) ∧
      Load.ReadsInteger (integerObject "value" (.number number)) {} first ∧
      Load.ReadsInteger (integerObject "text" (.string "-0")) {} second ∧
      first.value ≠ second.value := by
  obtain ⟨_, _, _, _, agree⟩ := integer_texts_read
  constructor
  · have read : Json.read "18446744073709551615" =
        .ok (.number (.ofUInt64 18446744073709551615)) :=
      (@Json.read_whole_eq_ok_iff "18446744073709551615" false 1
        [8, 4, 4, 6, 7, 4, 4, 0, 7, 3, 7, 0, 9, 5, 5, 1, 6, 1, 5] _ rfl (by decide)
        (by decide)).mpr (by decide +kernel)
    have numbered : Load.ReadsInteger
        (integerObject "value" (.number (.ofUInt64 18446744073709551615))) {}
        { ({} : Header) with literalType := .integer, value := .unsigned 18446744073709551615 } :=
      .of_literal rfl (by decide +kernel) rfl
    have lettered : Load.ReadsInteger
        (integerObject "text" (.string "18446744073709551615")) {}
        { ({ text := "18446744073709551615" } : Header) with
          literalType := .integer, value := .unsigned 18446744073709551615 } :=
      .of_literal rfl (by decide +kernel) rfl
    exact ⟨_, _, _, read, numbered, lettered, rfl⟩
  · have alone : Json.LeadingDigits ['0'] := ⟨⟨by simp, by simp⟩, fun _ => rfl⟩
    have zero : Json.IntegerText "-0".toList := .minus alone
    have read : Json.read "-0" = .ok (.number (.float ⟨Binary64.zero true, by decide⟩)) :=
      (@Json.read_whole_eq_ok_iff "-0" true 0 [] _ rfl (by decide) (by decide)).mpr
        (by decide +kernel)
    have numbered : Load.ReadsInteger
        (integerObject "value" (.number (.float ⟨Binary64.zero true, by decide⟩))) {}
        { ({} : Header) with literalType := .integer, value := .decimal (Binary64.zero true) } :=
      .of_literal rfl (by decide +kernel) rfl
    have lettered : Load.ReadsInteger (integerObject "text" (.string "-0")) {}
        { ({ text := "-0" } : Header) with literalType := .integer, value := .integer 0 } :=
      .of_literal rfl (by decide +kernel) rfl
    obtain ⟨n, _, _, same⟩ := agree "-0" zero
    have differ := same _ read _ _ _ numbered rfl _ _ _ lettered rfl rfl
    refine ⟨_, _, _, read, numbered, lettered, ?_⟩
    intro equal
    exact absurd rfl (differ.mp equal).1

end EsqlTree
