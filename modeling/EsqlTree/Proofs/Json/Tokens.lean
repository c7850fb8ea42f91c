import EsqlTree.Json.Reader
import EsqlTree.Json.Writer
import EsqlTree.Proofs.Text.Numeral
import Mathlib.Tactic.SplitIfs

/-!
# Strings and integers are read as they were written

A string is written with some of its characters escaped, and reading takes each escape
back to its character. An integer is written as its digits, and reading takes those as
long as the text behind them does not go on with a numeral. Both hold of every string and
of every integer that a JSON number keeps.
-/

namespace EsqlTree.Json

variable {ε α β : Type} {text rest after : List Char}

/-- A reader succeeds with a value, and leaves the rest of the text. -/
def Yields (result : Except ε (Text.Step text α)) (value : α) (rest : List Char) : Prop :=
  ∃ shorter, result = .ok ⟨value, rest, shorter⟩

/-- A step yields its value, and the rest that it says it leaves. -/
theorem yields_ok (step : Text.Step text α) :
    Yields (.ok step : Except ε (Text.Step text α)) step.value step.rest :=
  ⟨step.shorter, rfl⟩

/-- A step yields what its value and its rest are said to be. This is used where both are computed
by the reader and have to be recognised. -/
theorem Yields.of_step {step : Text.Step text α} {value : α} (same : step.value = value)
    (left : step.rest = rest) : Yields (.ok step : Except ε (Text.Step text α)) value rest := by
  subst same left
  exact yields_ok step

/-- What is done with the value that a reader yields goes on where the reader stopped. That the rest
is shorter is carried along, as recursion needs it. -/
theorem Yields.bind {other : List Char} {first : Except ε (Text.Step text α)}
    {next : Text.Step text α → Except ε (Text.Step other β)} {value : α} {result : β}
    (yielded : Yields first value rest)
    (continued : ∀ shorter, Yields (next ⟨value, rest, shorter⟩) result after) :
    Yields (first >>= next) result after := by
  obtain ⟨shorter, rfl⟩ := yielded
  exact continued shorter

/-- No blank is skipped where none stands, so reading begins with that character. -/
theorem skipBlanks_cons {c : Char} (noBlank : isBlank c = false) (rest : List Char) :
    skipBlanks (c :: rest) = c :: rest := by
  rw [skipBlanks, noBlank, if_neg Bool.false_ne_true]

/-- A unit is read back from its four digits. They are the digits of the number to the base sixteen,
and 16 bits have four of them. -/
theorem readUnit_fourHexDigits {n : Nat} (bound : n < 65536) (rest : List Char) :
    Yields (readUnit (Text.fourHexDigits n ++ rest)) n rest := by
  have digit (m : Nat) : Text.hexValue? (Text.digitOf (m % 16)) = some (m % 16) :=
    Text.hexValue?_digitOf (Nat.mod_lt m (by decide))
  have unit : ((n / 4096 % 16 * 16 + n / 256 % 16) * 16 + n / 16 % 16) * 16 + n % 16 = n := by
    omega
  simp only [Text.fourHexDigits, List.cons_append, List.nil_append, readUnit, digit, unit]
  exact yields_ok _

/-- A letter that stands for a character by itself is read as that character, and nothing more is
taken from the text. -/
theorem readEscape_letter {c letter : Char} (meaning : escapedChar? letter = some c)
    (rest : List Char) : Yields (readEscape (letter :: rest)) c rest := by
  simp only [readEscape, meaning]
  exact yields_ok _

/-- A control character is read back from its unit, which is no surrogate. So no second unit is
looked for. -/
theorem readEscape_unit {c : Char} (control : c.toNat < 0x20) (rest : List Char) :
    Yields (readEscape ('u' :: (Text.fourHexDigits c.toNat ++ rest))) c rest := by
  have unit : Yields (readUnit (Text.fourHexDigits c.toNat ++ rest)) c.toNat rest :=
    readUnit_fourHexDigits (by omega) rest
  have noLetter : escapedChar? 'u' = none := by decide
  have notLow : Text.isLowSurrogate c.toNat = false := by
    simp only [Text.isLowSurrogate, Bool.and_eq_false_iff, decide_eq_false_iff_not]
    omega
  have notHigh : Text.isHighSurrogate c.toNat = false := by
    simp only [Text.isHighSurrogate, Bool.and_eq_false_iff, decide_eq_false_iff_not]
    omega
  have whole : Char.ofNat c.toNat = c := Char.ofNat_toNat c
  have read : Yields (readUnicodeEscape (Text.fourHexDigits c.toNat ++ rest)) c rest := by
    rw [readUnicodeEscape]
    refine unit.bind fun shorter => ?_
    simp only [notLow, notHigh, Bool.false_eq_true, if_false]
    exact .of_step whole rfl
  simp only [readEscape, noLetter, if_true]
  exact read.bind fun shorter => yields_ok _

/-- A pair of surrogates is read as the one character that it denotes. The first unit alone denotes
none, which is why the second is read at once. -/
theorem readEscape_pair {high low : Nat} (isHigh : Text.isHighSurrogate high = true)
    (isLow : Text.isLowSurrogate low = true) (rest : List Char) :
    Yields
      (readEscape
        ('u' :: (Text.fourHexDigits high ++ '\\' :: 'u' :: (Text.fourHexDigits low ++ rest))))
      (Text.ofSurrogates high low) rest := by
  have bounds : 0xd800 ≤ high ∧ high ≤ 0xdbff ∧ 0xdc00 ≤ low ∧ low ≤ 0xdfff := by
    simp only [Text.isHighSurrogate, Text.isLowSurrogate, Bool.and_eq_true, decide_eq_true_eq]
      at isHigh isLow
    omega
  have notLow : Text.isLowSurrogate high = false := by
    simp only [Text.isLowSurrogate, Bool.and_eq_false_iff, decide_eq_false_iff_not]
    omega
  have noLetter : escapedChar? 'u' = none := by decide
  have second : Yields (readLowSurrogate ('\\' :: 'u' :: (Text.fourHexDigits low ++ rest))) low
      rest := by
    simp only [readLowSurrogate, if_true]
    refine (readUnit_fourHexDigits (by omega) rest).bind fun shorter => ?_
    simp only [isLow, if_true]
    exact yields_ok _
  have read : Yields
      (readUnicodeEscape
        (Text.fourHexDigits high ++ '\\' :: 'u' :: (Text.fourHexDigits low ++ rest)))
      (Text.ofSurrogates high low) rest := by
    rw [readUnicodeEscape]
    refine (readUnit_fourHexDigits (by omega) _).bind fun shorter => ?_
    simp only [notLow, isHigh, Bool.false_eq_true, if_false, if_true]
    refine second.bind fun shorter => ?_
    exact .of_step (by simp only [Text.Step.andThen]) (by simp only [Text.Step.andThen])
  simp only [readEscape, noLetter, if_true]
  refine read.bind fun shorter => ?_
  exact .of_step (by simp only [Text.Step.cons]) (by simp only [Text.Step.cons])

/-- An escaped character is read in front of others, whatever its escape looks like. -/
theorem readCharacters_escaped {c : Char} {others : List Char}
    (escaped : Yields (readEscape text) c rest) (read : Yields (readCharacters rest) others after) :
    Yields (readCharacters ('\\' :: text)) (c :: others) after := by
  rw [readCharacters]
  simp only [Char.reduceEq, if_false, if_true]
  refine escaped.bind fun shorter => ?_
  exact read.bind fun shorter => yields_ok _

/-- A character that stands for itself is read in front of others, unless it is one of those that
have to be escaped. -/
theorem readCharacters_plain {c : Char} {others : List Char} (noQuote : c ≠ '"')
    (noBackslash : c ≠ '\\') (noControl : ¬ c.toNat < 0x20)
    (read : Yields (readCharacters text) others after) :
    Yields (readCharacters (c :: text)) (c :: others) after := by
  rw [readCharacters, if_neg noQuote, if_neg noBackslash, if_neg noControl]
  exact read.bind fun shorter => yields_ok _

/-- A character is written as a letter behind a backslash, as a unit, or as itself. These are the
three ways in which one is read. -/
theorem escape_cases (c : Char) :
    (∃ letter, escape c = ['\\', letter] ∧ escapedChar? letter = some c) ∨
      (escape c = '\\' :: 'u' :: Text.fourHexDigits c.toNat ∧ c.toNat < 0x20) ∨
      (escape c = [c] ∧ c ≠ '"' ∧ c ≠ '\\' ∧ ¬ c.toNat < 0x20) := by
  unfold escape
  split_ifs with quote backslash backspace formFeed lineFeed carriageReturn tab control
  · exact .inl ⟨'"', rfl, by rw [quote]; decide⟩
  · exact .inl ⟨'\\', rfl, by rw [backslash]; decide⟩
  · exact .inl ⟨'b', rfl, by rw [backspace]; decide⟩
  · exact .inl ⟨'f', rfl, by rw [formFeed]; decide⟩
  · exact .inl ⟨'n', rfl, by rw [lineFeed]; decide⟩
  · exact .inl ⟨'r', rfl, by rw [carriageReturn]; decide⟩
  · exact .inl ⟨'t', rfl, by rw [tab]; decide⟩
  · exact .inr (.inl ⟨rfl, control⟩)
  · exact .inr (.inr ⟨rfl, quote, backslash, control⟩)

/-- A character is read back as it was written, in whichever of the three ways that was. -/
theorem readCharacters_escape (c : Char) {others : List Char}
    (read : Yields (readCharacters text) others after) :
    Yields (readCharacters (escape c ++ text)) (c :: others) after := by
  rcases escape_cases c with ⟨letter, written, meaning⟩ | ⟨written, control⟩ |
    ⟨written, noQuote, noBackslash, noControl⟩
  · rw [written]
    exact readCharacters_escaped (readEscape_letter meaning text) read
  · rw [written]
    exact readCharacters_escaped (readEscape_unit control text) read
  · rw [written]
    exact readCharacters_plain noQuote noBackslash noControl read

/-- The characters of a string are read back as they were written. By induction on the characters,
the closing quote being what ends them. -/
theorem readCharacters_write (characters after : List Char) :
    Yields (readCharacters (writeCharacters characters after)) characters after := by
  induction characters with
  | nil =>
    rw [writeCharacters, readCharacters, if_pos rfl]
    exact yields_ok _
  | cons c others inOthers =>
    rw [writeCharacters]
    exact readCharacters_escape c inOthers

/-- A text that does not go on with a numeral. -/
def EndsNumeral (text : List Char) : Prop :=
  ∀ c rest, text = c :: rest → Text.digitValue? c = none ∧ c ≠ '.' ∧ c ≠ 'e' ∧ c ≠ 'E'

/-- No fraction is read where a numeral ends, as there is no point. -/
theorem readFraction_of_ends (ends : EndsNumeral text) :
    readFraction text = .ok (.nothing [] text) := by
  cases text with
  | nil => rfl
  | cons c rest => rw [readFraction, if_neg (ends c rest rfl).2.1]

/-- No power of ten is read where a numeral ends, as there is no mark of an exponent. -/
theorem readPower_of_ends (significand : Nat) (ends : EndsNumeral text) :
    readPower significand text = .ok (.nothing none text) := by
  cases text with
  | nil => rfl
  | cons c rest =>
    obtain ⟨_, _, noLower, noUpper⟩ := ends c rest rfl
    have noMark : ¬ (c = 'e' ∨ c = 'E') := not_or.mpr ⟨noLower, noUpper⟩
    rw [readPower, if_neg noMark]

/-- The numeral of whole digits alone. -/
def Numeral.ofDigits (negative : Bool) (whole : List Nat) : Numeral :=
  { negative, whole, fraction := [], power := 0, plain := true }

/-- The digits behind the first one are read, and the number is that of all of them, if they have
one. A zero may not be followed by digits, so that it is the only one is a hypothesis. -/
theorem readAfterDigit_map (negative : Bool) {first : Nat} {others : List Nat}
    (small : ∀ digit ∈ others, digit < 10) (lead : first = 0 → others = [])
    (ends : EndsNumeral after) :
    ∃ (part : Number → Text.Part (others.map Text.digitOf ++ after) Number) (failure : Failure),
      (∀ number, (part number).value = number ∧ (part number).rest = after) ∧
      readAfterDigit negative first (others.map Text.digitOf ++ after) =
        match (Numeral.ofDigits negative (first :: others)).number? with
        | some number => .ok (part number)
        | none => .error failure := by
  have endsDigits : Text.EndsDigits after := fun c rest begins => (ends c rest begins).1
  obtain ⟨digits, rest⟩ := Text.takeDigits_map_append small endsDigits
  have endsRest : EndsNumeral (Text.takeDigits (others.map Text.digitOf ++ after)).rest := by
    rwa [rest]
  have noZero : ¬ (first = 0 ∧ others ≠ []) := fun zero => zero.2 (lead zero.1)
  simp only [readAfterDigit, digits, if_neg noZero, readFraction_of_ends endsRest, bind,
    Except.bind, Text.Part.nothing, readPower_of_ends _ endsRest, Option.getD_none,
    List.isEmpty_nil, Option.isNone_none, Bool.and_self, Numeral.ofDigits]
  exact ⟨_, _, fun number => ⟨rfl, rest⟩, rfl⟩

/-- A numeral without fraction and exponent is of the integer that it denotes, as long as it is not
negative zero. The bounds are part of what an integer is here. -/
theorem Numeral.number?_of_plain {numeral : Numeral} {n : Integer} (plain : numeral.plain = true)
    (signed : ¬ (numeral.negative = true ∧ n.val = 0)) (whole : numeral.integer = n.val) :
    numeral.number? = some (.integer n) := by
  obtain ⟨val, lower, upper⟩ := n
  obtain rfl : numeral.integer = val := whole
  rw [Numeral.number?, if_pos ⟨plain, signed⟩, dif_pos ⟨lower, upper⟩]

/-- The digits of an integer with its sign are of that integer. Its minus is written only if it is
negative, so negative zero does not occur. -/
theorem number?_digits (n : Integer) :
    (Numeral.ofDigits (decide (n.val < 0)) (Text.digits n.val.natAbs)).number? =
      some (.integer n) := by
  apply Numeral.number?_of_plain rfl
  · simp only [Numeral.ofDigits, decide_eq_true_eq]
    omega
  · simp only [Numeral.integer, Numeral.ofDigits, Text.ofDigits_digits, decide_eq_true_eq]
    split <;> omega

end EsqlTree.Json
