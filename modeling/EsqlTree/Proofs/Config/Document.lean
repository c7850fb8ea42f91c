import EsqlTree.Config.Document
import EsqlTree.Proofs.Json.Rereading

/-!
# JSON as a configuration text

A configuration text may hold comments, words and commas at the end, and it nests to any depth. All
of this goes beyond JSON and takes nothing away from it: the JSON text of a value without
floating-point numbers is a configuration text, and what it holds is that value. So what is said of
the settings that a value gives is said of a text as well.

Each token of such a text stands in front of the next one without a blank. It is read first, and the
values are then read by recursion on the value, in the way in which they were written.
-/

namespace EsqlTree.Config

open Json (Value Members Yields yields_ok write writeElements writeMembers writeString
  writeCharacters ElementsFloatless MembersFloatless)
open Text (Step Part)

variable {text rest after : List Char} {token : Token}

/-- A text begins with a token, which no blank and no comment precede. -/
def Begins (text : List Char) (token : Token) (rest : List Char) : Prop :=
  ∃ shorter, next text = .ok (some ⟨⟨token, text⟩, rest, shorter⟩)

/-- A token is found where its first character stands. That may be neither a blank nor a slash, with
which a comment would begin. -/
theorem begins_of_tokenAt {c : Char} (noBlank : Text.isBlank c = false) (noSlash : c ≠ '/')
    (read : Yields (tokenAt c text) token rest) : Begins (c :: text) token rest := by
  obtain ⟨shorter, read⟩ := read
  refine ⟨shorter, ?_⟩
  rw [next]
  simp only [noBlank, Bool.false_eq_true, if_false, noSlash, read, bind, Except.bind, Step.map]

/-- True of a text that ends a value in front of it: it is empty, or a comma or a closing bracket or
brace comes first. -/
def Closes (text : List Char) : Prop :=
  ∀ c rest, text = c :: rest → c = ',' ∨ c = ']' ∨ c = '\x7d'

/-- What ends a value goes on neither with a name nor with a number of any sort. The three marks can
be checked one by one. -/
theorem Closes.first {c : Char} (closes : Closes (c :: rest)) :
    Text.isAlphanumeric c = false ∧ Text.isDigit c = false ∧
      c ≠ '.' ∧ c ≠ 'e' ∧ c ≠ 'E' ∧ c ≠ 'x' ∧ c ≠ 'X' := by
  rcases closes c rest rfl with rfl | rfl | rfl <;> decide +kernel

/-- The end of the text ends every value. -/
theorem closes_nil : Closes [] := by
  rintro c rest ⟨⟩

/-- What is written behind an element ends it: a comma, or the bracket. -/
theorem closes_writeElements (elements : List Value) (after : List Char) :
    Closes (writeElements elements after) := by
  cases elements
  all_goals
    rw [writeElements]
    rintro c rest ⟨⟩
    decide

/-- What is written behind a member ends its value: a comma, or the brace. -/
theorem closes_writeMembers (members : Members) (after : List Char) :
    Closes (writeMembers members after) := by
  rcases members with _ | ⟨⟨key, value⟩, others⟩
  all_goals
    rw [writeMembers]
    rintro c rest ⟨⟩
    decide

/-- A character that stands for another one behind a backslash in JSON does so here. There are
further such characters here, but none of them means something else. -/
theorem escape_letter {c letter : Char} (meaning : Json.escapedChar? letter = some c)
    (rest : List Char) : escape '"' letter rest = .ok (.char c letter rest) := by
  unfold Json.escapedChar? at meaning
  split_ifs at meaning
  all_goals
    subst letter
    obtain rfl := Option.some.inj meaning
    rfl

/-- The unit of four digits is the number that they were written for. They are the digits to the
base sixteen of a number with 16 bits. -/
theorem hexUnit?_fourHexDigits {n : Nat} (bound : n < 65536) (rest : List Char) :
    ∃ digits shorter,
      hexUnit? (Text.fourHexDigits n ++ rest) = some ⟨(n, digits), rest, shorter⟩ := by
  have digit (m : Nat) : Text.hexValue? (Text.digitOf (m % 16)) = some (m % 16) :=
    Text.hexValue?_digitOf (Nat.mod_lt m (by decide))
  have unit : ((n / 4096 % 16 * 16 + n / 256 % 16) * 16 + n / 16 % 16) * 16 + n % 16 = n := by
    omega
  simp only [Text.fourHexDigits, List.cons_append, List.nil_append, hexUnit?, digit, unit]
  exact ⟨_, _, rfl⟩

/-- A control character is read from its unit, which is no surrogate. So no second unit is looked
for. -/
theorem codeEscape_control {c : Char} (control : c.toNat < 0x20) (rest : List Char) :
    Yields (codeEscape (Text.fourHexDigits c.toNat ++ rest)) c rest := by
  obtain ⟨digits, shorter, unit⟩ := hexUnit?_fourHexDigits (by omega : c.toNat < 65536) rest
  have notLow : Text.isLowSurrogate c.toNat = false := by
    simp only [Text.isLowSurrogate, Bool.and_eq_false_iff, decide_eq_false_iff_not]
    omega
  have notHigh : Text.isHighSurrogate c.toNat = false := by
    simp only [Text.isHighSurrogate, Bool.and_eq_false_iff, decide_eq_false_iff_not]
    omega
  rw [codeEscape, unit]
  simp only [notLow, notHigh, Bool.false_eq_true, if_false]
  exact .of_step (Char.ofNat_toNat c) rfl

/-- An escaped character is read in front of others, whatever its escape looks like. -/
theorem stringRest_escaped {opening : List Char} {c letter : Char} {others : List Char}
    (escaped : Yields (escape '"' letter text) c rest)
    (read : Yields (stringRest '"' opening rest) others after) :
    Yields (stringRest '"' opening ('\\' :: letter :: text)) (c :: others) after := by
  obtain ⟨_, escaped⟩ := escaped
  rw [stringRest.eq_def]
  simp only [Char.reduceEq, if_false, if_true, escaped]
  exact read.bind fun shorter => yields_ok _

/-- A string is read up to its closing quote as it was written. The cases are those of what may be
written for its first character. -/
theorem stringRest_write (opening characters after : List Char) :
    Yields (stringRest '"' opening (writeCharacters characters after)) characters after := by
  induction characters with
  | nil =>
    rw [writeCharacters, stringRest.eq_def]
    simp only [if_true]
    exact yields_ok _
  | cons c others inOthers =>
    rw [writeCharacters]
    rcases Json.escape_cases c with ⟨letter, written, meaning⟩ | ⟨written, control⟩ |
      ⟨written, noQuote, noBackslash, _⟩
    · rw [written]
      refine stringRest_escaped ?_ inOthers
      rw [escape_letter meaning]
      exact yields_ok _
    · rw [written]
      refine stringRest_escaped ?_ inOthers
      exact (codeEscape_control control _).bind fun shorter => yields_ok _
    · rw [written, List.singleton_append, stringRest.eq_def]
      simp only [noQuote, noBackslash, if_false]
      exact inOthers.bind fun shorter => yields_ok _

/-- A text begins with the string that is written in front of it, whatever comes behind the closing
quote. -/
theorem begins_writeString (s : String) (after : List Char) :
    Begins (writeString s after) (.string s) after := by
  refine begins_of_tokenAt (by decide) (by decide) ?_
  refine (stringRest_write _ s.toList after).bind fun shorter => ?_
  exact .of_step (congrArg Token.string String.ofList_toList) rfl

/-- A name is found in front of what ends a value, where it cannot go on as a longer name. -/
theorem afterWord?_append (word : List Char) (closes : Closes after) :
    ∃ notLonger, afterWord? word (word ++ after) = some ⟨(), after, notLonger⟩ := by
  induction word with
  | nil =>
    cases after with
    | nil => exact ⟨_, rfl⟩
    | cons c rest =>
      rw [List.nil_append, afterWord?, if_neg (by rw [closes.first.1]; decide)]
      exact ⟨_, rfl⟩
  | cons letter letters inLetters =>
    obtain ⟨_, found⟩ := inLetters
    rw [List.cons_append, afterWord?, if_pos rfl, found]
    exact ⟨_, rfl⟩

/-- A name of a token is told by its first letter, since no two of the three begin alike. -/
theorem begins_name (c : Char) (word : List Char) (closes : Closes after)
    (named : (c, word, token) ∈ [('t', ['r', 'u', 'e'], Token.boolean true),
      ('f', ['a', 'l', 's', 'e'], .boolean false), ('n', ['u', 'l', 'l'], .null)]) :
    Begins (c :: (word ++ after)) token after := by
  obtain ⟨_, found⟩ := afterWord?_append word closes
  simp only [List.mem_cons, Prod.mk.injEq, List.not_mem_nil, or_false] at named
  rcases named with ⟨rfl, rfl, rfl⟩ | ⟨rfl, rfl, rfl⟩ | ⟨rfl, rfl, rfl⟩
  all_goals
    refine begins_of_tokenAt (by decide) (by decide) ?_
    change Yields (wordToken _ _) _ _
    simp only [wordToken, named?, found, Char.reduceEq, if_false, if_true, Option.map_some]
    exact yields_ok _

/-- A run of characters is taken up to the first one that does not belong to it, or up to the end of
the text. -/
theorem takeRun_append {holds : Char → Bool} {run : List Char} (each : ∀ c ∈ run, holds c = true)
    (ends : ∀ c rest, after = c :: rest → holds c = false) :
    (Text.takeRun holds (run ++ after)).value = run ∧
      (Text.takeRun holds (run ++ after)).rest = after := by
  induction run with
  | nil =>
    cases after with
    | nil => exact ⟨rfl, rfl⟩
    | cons c rest =>
      rw [List.nil_append, Text.takeRun, if_neg (by rw [ends c rest rfl]; decide)]
      exact ⟨rfl, rfl⟩
  | cons c others inOthers =>
    obtain ⟨holdsFirst, holdsOthers⟩ := List.forall_mem_cons.mp each
    obtain ⟨value, left⟩ := inOthers holdsOthers
    rw [List.cons_append, Text.takeRun, if_pos holdsFirst]
    exact ⟨congrArg (c :: ·) value, left⟩

/-- Neither a fraction nor an exponent is read in front of what ends a value, as there is neither a
point nor a mark. -/
theorem afterWhole_of_closes (closes : Closes after) :
    ∃ notLonger, afterWhole after = .ok ⟨[], after, notLonger⟩ := by
  cases after with
  | nil => exact ⟨_, rfl⟩
  | cons c rest =>
    obtain ⟨_, _, noPoint, noLower, noUpper, _⟩ := closes.first
    have plain : fraction (c :: rest) = .ok (.nothing [] (c :: rest)) := by
      rw [fraction, if_neg noPoint]
    have noExponent : exponent (c :: rest) = .ok (.nothing [] (c :: rest)) := by
      rw [exponent, if_neg (not_or.mpr ⟨noLower, noUpper⟩)]
    refine ⟨Nat.le_refl _, ?_⟩
    simp only [afterWhole, plain, bind, Except.bind, Part.nothing, noExponent]
    rfl

/-- A zero is read alone. What ends a value is no mark of a hexadecimal number, which a zero might
begin. -/
theorem numberFrom_zero (closes : Closes after) : Yields (numberFrom '0' after) ['0'] after := by
  obtain ⟨_, nothing⟩ := afterWhole_of_closes closes
  have decimal : hexDigits? after = none := by
    cases after with
    | nil => rfl
    | cons c rest =>
      obtain ⟨_, _, _, _, _, noLower, noUpper⟩ := closes.first
      rw [hexDigits?, if_neg (not_or.mpr ⟨noLower, noUpper⟩)]
  simp only [numberFrom, decimal, nothing, if_true, bind, Except.bind]
  exact yields_ok _

/-- Digits of which the first is not zero are read to their end, and there the number ends. -/
theorem numberFrom_digits {first : Char} {others : List Char} (noZero : first ≠ '0')
    (digits : ∀ c ∈ others, Text.isDigit c = true) (closes : Closes after) :
    Yields (numberFrom first (others ++ after)) (first :: others) after := by
  have ends : ∀ c rest, after = c :: rest → Text.isDigit c = false := by
    rintro c rest rfl
    exact closes.first.2.1
  obtain ⟨value, left⟩ := takeRun_append digits ends
  obtain ⟨_, nothing⟩ : ∃ notLonger, afterWhole (Text.takeRun Text.isDigit (others ++ after)).rest =
      .ok ⟨[], after, notLonger⟩ := by
    rw [left]
    exact afterWhole_of_closes closes
  simp only [numberFrom, if_neg noZero, nothing, bind, Except.bind]
  exact .of_step (by simp [Part.cons, Part.andThen, value]) rfl

/-- A digit is taken for one when it is read. -/
theorem isDigit_digitOf {value : Nat} (small : value < 10) :
    Text.isDigit (Text.digitOf value) = true := by
  rw [Text.isDigit, Text.digitValue?_digitOf small]
  rfl

/-- The digits of a number are read to their end. A zero in front stands alone, so it is read by
itself, and any other digit is followed by the rest of them. -/
theorem numberFrom_digitsOf {first : Nat} {others : List Nat}
    (small : ∀ digit ∈ first :: others, digit < 10) (lead : first = 0 → others = [])
    (closes : Closes after) :
    Yields (numberFrom (Text.digitOf first) (others.map Text.digitOf ++ after))
      ((first :: others).map Text.digitOf) after := by
  by_cases zero : first = 0
  · rw [zero, lead zero]
    exact numberFrom_zero closes
  · have noZero : ∀ digit : Fin 10, digit.val ≠ 0 → Text.digitOf digit.val ≠ '0' := by decide
    refine numberFrom_digits (noZero ⟨first, small first List.mem_cons_self⟩ zero) ?_ closes
    rw [List.forall_mem_map]
    exact fun value listed => isDigit_digitOf (small value (List.mem_cons_of_mem _ listed))

/-- A text begins with the number whose digits are written in front of it. The token keeps these
digits, and its value is told from them later. -/
theorem begins_wholeText (negative : Bool) {first : Nat} {others : List Nat}
    (small : ∀ digit ∈ first :: others, digit < 10) (lead : first = 0 → others = [])
    (closes : Closes after) :
    Begins (Json.wholeText negative (first :: others) ++ after)
      (.number (Json.wholeText negative (first :: others))) after := by
  have number := numberFrom_digitsOf small lead closes
  have firstSmall := small first List.mem_cons_self
  cases negative with
  | true =>
    refine begins_of_tokenAt (by decide) (by decide) ?_
    have signed : Yields
        (numberAfterSign (Text.digitOf first :: (others.map Text.digitOf ++ after)))
        ((first :: others).map Text.digitOf) after := by
      rw [numberAfterSign, if_pos (isDigit_digitOf firstSmall)]
      exact number
    exact signed.bind fun shorter => yields_ok _
  | false =>
    have begins : ∀ value : Fin 10, Text.isBlank (Text.digitOf value.val) = false ∧
        Text.digitOf value.val ∉
          ['/', '\x7b', '\x7d', '[', ']', ',', ':', '"', '\'', '-', '+'] := by
      decide
    obtain ⟨noBlank, noOther⟩ := begins ⟨first, firstSmall⟩
    simp only [List.mem_cons, not_or] at noOther
    refine begins_of_tokenAt noBlank noOther.1 ?_
    simp only [tokenAt, noOther, if_false, or_self, isDigit_digitOf firstSmall, if_true]
    exact number.bind fun shorter => yields_ok _

/-- Whole digits are read as the JSON number that they are of. It is here that the configuration
falls back on the reader of JSON numbers. -/
theorem readNumber_wholeText {negative : Bool} {first : Nat} {others : List Nat}
    {number : Json.Number} (small : ∀ digit ∈ first :: others, digit < 10)
    (lead : first = 0 → others = []) (ends : Json.EndsNumeral after)
    (denoted : (Json.Numeral.ofDigits negative (first :: others)).number? = some number) :
    Yields (Json.readNumber (Json.wholeText negative (first :: others) ++ after)) number after := by
  obtain ⟨smallFirst, smallOthers⟩ := List.forall_mem_cons.mp small
  obtain ⟨part, _, parts, read⟩ := Json.readAfterDigit_map negative smallOthers lead ends
  obtain ⟨value, left⟩ := parts number
  rw [denoted] at read
  have unsigned : Yields
      (Json.readUnsigned negative (Text.digitOf first :: (others.map Text.digitOf ++ after))) number
      after := by
    simp only [Json.readUnsigned, Text.digitValue?_digitOf smallFirst, read, bind, Except.bind]
    exact .of_step value left
  cases negative with
  | true => exact unsigned.bind fun shorter => yields_ok _
  | false =>
    have noMinus : ∀ value : Fin 10, Text.digitOf value.val ≠ '-' := by decide
    rw [Json.wholeText, if_neg Bool.false_ne_true, List.map_cons, List.cons_append, Json.readNumber,
      if_neg (noMinus ⟨first, smallFirst⟩)]
    exact unsigned

/-- A numeral without a plus in front has the number that it has in JSON. A plus would be dropped
first, as JSON has none. -/
theorem jsonNumber?_eq_some {c : Char} {number : Json.Number} (noPlus : c ≠ '+')
    (read : Yields (Json.readNumber (c :: rest)) number []) :
    jsonNumber? (c :: rest) = some number := by
  obtain ⟨_, read⟩ := read
  unfold jsonNumber?
  split
  · rename_i same
    exact absurd (List.cons.inj same).1 noPlus
  · simp only [read]
    rfl

/-- A numeral that begins with another digit than zero, behind a minus or behind nothing, is not
hexadecimal, as those begin with a zero and a letter. -/
theorem hexInteger?_eq_none {c : Char} {digits : List Char} (noZero : c ≠ '0') (noPlus : c ≠ '+')
    (noMinus : c ≠ '-') :
    hexInteger? (c :: digits) = none ∧ hexInteger? ('-' :: c :: digits) = none := by
  have plain : Decimal.takeSign (c :: digits) = (false, c :: digits) := by
    unfold Decimal.takeSign
    split
    · rename_i same
      exact absurd (List.cons.inj same).1 noMinus
    · rename_i same
      exact absurd (List.cons.inj same).1 noPlus
    · rfl
  have signed : Decimal.takeSign ('-' :: c :: digits) = (true, c :: digits) := rfl
  constructor
  · simp only [hexInteger?, plain]
    split
    · rename_i same
      exact absurd (List.cons.inj same).1 noZero
    · rfl
  · simp only [hexInteger?, signed]
    split
    · rename_i same
      exact absurd (List.cons.inj same).1 noZero
    · rfl

/-- Whole digits hold the number that they are of. No mark behind a zero makes them hexadecimal, and
no plus in front has to be dropped. -/
theorem numberValue_wholeText {negative : Bool} {first : Nat} {others : List Nat}
    {number : Json.Number} (small : ∀ digit ∈ first :: others, digit < 10)
    (lead : first = 0 → others = [])
    (denoted : (Json.Numeral.ofDigits negative (first :: others)).number? = some number) :
    numberValue (Json.wholeText negative (first :: others)) = .number number := by
  have each : ∀ value : Fin 10, (value.val ≠ 0 → Text.digitOf value.val ≠ '0') ∧
      Text.digitOf value.val ≠ '+' ∧ Text.digitOf value.val ≠ '-' := by decide
  obtain ⟨noZero, noPlus, noMinus⟩ := each ⟨first, small first List.mem_cons_self⟩
  have decimal : hexInteger? (Json.wholeText negative (first :: others)) = none := by
    by_cases zero : first = 0
    · subst zero
      rw [lead rfl]
      cases negative <;> rfl
    · have none := @hexInteger?_eq_none _ (others.map Text.digitOf) (noZero zero) noPlus noMinus
      cases negative with
      | true => exact none.2
      | false => exact none.1
  have ends : Json.EndsNumeral [] := by rintro c rest ⟨⟩
  have numeral := readNumber_wholeText small lead ends denoted
  rw [List.append_nil] at numeral
  have read : jsonNumber? (Json.wholeText negative (first :: others)) = some number := by
    cases negative with
    | true => exact jsonNumber?_eq_some (by decide) numeral
    | false => exact jsonNumber?_eq_some noPlus numeral
  rw [numberValue, decimal]
  simp only [read]

/-- A text begins with a value, behind which the rest follows. -/
def Holds (text : List Char) (value : Value) (rest : List Char) : Prop :=
  ∃ token behind, Begins text token behind ∧
    ∃ notLonger, valueFrom ⟨token, text⟩ behind = .ok ⟨value, rest, notLonger⟩

/-- Behind a value, nothing or one comma is left out. -/
def SkipsComma (text rest : List Char) : Prop :=
  ∃ notLonger, skipComma text = .ok ⟨(), rest, notLonger⟩

/-- A comma is left out, and what stands behind it is what follows. -/
theorem skipsComma_comma (begins : Begins text .comma rest) : SkipsComma text rest := by
  obtain ⟨shorter, found⟩ := begins
  simp only [SkipsComma, skipComma, found, bind, Except.bind, if_true]
  exact ⟨Nat.le_of_lt shorter, rfl⟩

/-- Nothing is left out in front of another token, so the comma behind the last element may be
missing. -/
theorem skipsComma_other (begins : Begins text token rest) (other : token ≠ .comma) :
    SkipsComma text text := by
  obtain ⟨shorter, found⟩ := begins
  simp only [SkipsComma, skipComma, found, bind, Except.bind, if_neg other]
  exact ⟨Nat.le_refl _, rfl⟩

/-- A text holds the value that its first token stands for by itself, as all but brackets and braces
do. -/
theorem Begins.holds {value : Value} (begins : Begins text token rest)
    (alone : valueFrom ⟨token, text⟩ rest = .ok (.nothing value rest)) : Holds text value rest :=
  ⟨token, rest, begins, Nat.le_refl _, alone⟩

/-- A text holds the array of the elements behind its bracket, up to the closing one. -/
theorem Begins.holds_array {values : List Value} {behind : List Char}
    (begins : Begins text .openBracket behind) (each : Yields (elements text behind) values rest) :
    Holds text (.array values) rest := by
  obtain ⟨shorter, read⟩ := each
  refine ⟨_, _, begins, Nat.le_of_lt shorter, ?_⟩
  rw [valueFrom]
  simp only [read, bind, Except.bind]
  rfl

/-- A text holds the object of the properties behind its brace, up to the closing one. -/
theorem Begins.holds_object {members : Members} {behind : List Char}
    (begins : Begins text .openBrace behind) (each : Yields (properties text behind) members rest) :
    Holds text (.object members) rest := by
  obtain ⟨shorter, read⟩ := each
  refine ⟨_, _, begins, Nat.le_of_lt shorter, ?_⟩
  rw [valueFrom]
  simp only [read, bind, Except.bind]
  rfl

/-- A closing bracket ends the elements, and it may come at once. -/
theorem elements_end (opening : List Char) (begins : Begins text .closeBracket rest) :
    Yields (elements opening text) [] rest := by
  obtain ⟨shorter, found⟩ := begins
  rw [elements]
  simp only [found, bind, Except.bind, if_true]
  exact yields_ok _

/-- A value is an element in front of others. It does not begin with a closing bracket, which is no
value. -/
theorem elements_cons (opening : List Char) {value : Value} {values : List Value}
    {behind others : List Char} (first : Holds text value behind) (comma : SkipsComma behind others)
    (later : Yields (elements opening others) values rest) :
    Yields (elements opening text) (value :: values) rest := by
  obtain ⟨token, _, ⟨_, found⟩, _, read⟩ := first
  obtain ⟨_, skipped⟩ := comma
  have noEnd : token ≠ .closeBracket := by
    rintro rfl
    rw [valueFrom] at read
    contradiction
  rw [elements]
  simp only [found, bind, Except.bind, if_neg noEnd, read, skipped]
  exact later.bind fun shorter => yields_ok _

/-- A closing brace ends the properties, and it may come at once. -/
theorem properties_end (opening : List Char) (begins : Begins text .closeBrace rest) :
    Yields (properties opening text) [] rest := by
  obtain ⟨shorter, found⟩ := begins
  rw [properties]
  simp only [found, bind, Except.bind, if_true]
  exact yields_ok _

/-- A key, a colon and a value are a property in front of others. The three are found one after
another, and then the comma is left out. -/
theorem properties_cons (opening : List Char) {key : String} {value : Value} {members : Members}
    {colon property behind others : List Char} (named : Begins text (.string key) colon)
    (given : Begins colon .colon property) (holds : Holds property value behind)
    (comma : SkipsComma behind others) (later : Yields (properties opening others) members rest) :
    Yields (properties opening text) ((key, value) :: members) rest := by
  obtain ⟨_, foundKey⟩ := named
  obtain ⟨_, foundColon⟩ := given
  obtain ⟨token, _, ⟨_, found⟩, _, read⟩ := holds
  obtain ⟨_, skipped⟩ := comma
  rw [properties]
  simp only [foundKey, bind, Except.bind, reduceCtorEq, if_false, keyOf?, expectColon, foundColon,
    if_true, expectPropertyValue, Step.map, found, read, skipped]
  exact later.bind fun shorter => yields_ok _

/-- A single character that is a token is found wherever it stands, whatever follows it. -/
theorem begins_mark {c : Char}
    (mark : (c, token) ∈ [('\x7b', Token.openBrace), ('\x7d', .closeBrace), ('[', .openBracket),
      (']', .closeBracket), (',', .comma), (':', .colon)])
    (rest : List Char) : Begins (c :: rest) token rest := by
  simp only [List.mem_cons, Prod.mk.injEq, List.not_mem_nil, or_false] at mark
  rcases mark with ⟨rfl, rfl⟩ | ⟨rfl, rfl⟩ | ⟨rfl, rfl⟩ | ⟨rfl, rfl⟩ | ⟨rfl, rfl⟩ | ⟨rfl, rfl⟩
  all_goals exact begins_of_tokenAt (by decide) (by decide) (yields_ok _)

/-- A text holds the integer that is written in front of it. What ends the value keeps its digits
from going on. -/
theorem holds_integer (n : Json.Integer) (closes : Closes after) :
    Holds (write (.number (.integer n)) after) (.number (.integer n)) after := by
  obtain ⟨negative, first, others, written, small, lead, denoted⟩ := Json.write_integer n
  rw [written]
  refine (begins_wholeText negative small lead closes).holds ?_
  rw [valueFrom]
  simp only [numberValue_wholeText small lead denoted]

mutual

/-- A text holds the value that is written in front of it. The recursion is on the value, with the
text behind it held general; a string needs nothing to end it, and neither does a container. -/
theorem holds_write : (value : Value) → value.Floatless → (after : List Char) → Closes after →
    Holds (write value after) value after
  | .null, _, after, closes => by
    have name : Begins (write .null after) .null after :=
      begins_name 'n' ['u', 'l', 'l'] closes (by simp)
    exact name.holds (by rw [valueFrom])
  | .boolean true, _, after, closes => by
    have name : Begins (write (.boolean true) after) (.boolean true) after :=
      begins_name 't' ['r', 'u', 'e'] closes (by simp)
    exact name.holds (by rw [valueFrom])
  | .boolean false, _, after, closes => by
    have name : Begins (write (.boolean false) after) (.boolean false) after :=
      begins_name 'f' ['a', 'l', 's', 'e'] closes (by simp)
    exact name.holds (by rw [valueFrom])
  | .number (.integer n), _, after, closes => holds_integer n closes
  | .number (.float _), floatless, _, _ => absurd floatless (by simp [Value.Floatless])
  | .string s, _, after, _ => by
    rw [write]
    exact (begins_writeString s after).holds (by rw [valueFrom])
  | .array [], _, after, _ => by
    rw [write]
    exact (begins_mark (by simp) _).holds_array (elements_end _ (begins_mark (by simp) _))
  | .array (first :: others), floatless, after, _ => by
    rw [write]
    exact (begins_mark (by simp) _).holds_array
      (elements_write first others floatless.1 floatless.2 _ after)
  | .object [], _, after, _ => by
    rw [write]
    exact (begins_mark (by simp) _).holds_object (properties_end _ (begins_mark (by simp) _))
  | .object ((key, value) :: others), floatless, after, _ => by
    rw [write]
    exact (begins_mark (by simp) _).holds_object
      (properties_write key value others floatless.1 floatless.2 _ after)
termination_by value => sizeOf value

/-- Elements are read as they were written, up to the bracket. The recursion is on the elements
behind the first, since the last one is followed by no comma. -/
theorem elements_write (first : Value) : (others : List Value) → first.Floatless →
    ElementsFloatless others → (opening after : List Char) →
      Yields (elements opening (write first (writeElements others after))) (first :: others) after
  | [], floatless, _, opening, after => by
    have holds := holds_write first floatless _ (closes_writeElements [] after)
    have bracket : Begins (writeElements [] after) .closeBracket after := by
      rw [writeElements]
      exact begins_mark (by simp) after
    exact elements_cons opening holds (skipsComma_other bracket (by simp))
      (elements_end opening bracket)
  | second :: others, floatless, floatlessBehind, opening, after => by
    have holds := holds_write first floatless _ (closes_writeElements (second :: others) after)
    have comma : Begins (writeElements (second :: others) after) .comma
        (write second (writeElements others after)) := by
      rw [writeElements]
      exact begins_mark (by simp) _
    exact elements_cons opening holds (skipsComma_comma comma)
      (elements_write second others floatlessBehind.1 floatlessBehind.2 opening after)
termination_by others => sizeOf first + sizeOf others

/-- Properties are read as they were written, up to the brace. The recursion is on the members
behind the first, as it is for elements. -/
theorem properties_write (key : String) (value : Value) : (others : Members) → value.Floatless →
    MembersFloatless others → (opening after : List Char) →
      Yields
        (properties opening (writeString key (':' :: write value (writeMembers others after))))
        ((key, value) :: others) after
  | [], floatless, _, opening, after => by
    have holds := holds_write value floatless _ (closes_writeMembers [] after)
    have brace : Begins (writeMembers [] after) .closeBrace after := by
      rw [writeMembers]
      exact begins_mark (by simp) after
    exact properties_cons opening (begins_writeString key _) (begins_mark (by simp) _) holds
      (skipsComma_other brace (by simp)) (properties_end opening brace)
  | (secondKey, second) :: others, floatless, floatlessBehind, opening, after => by
    have holds := holds_write value floatless _
      (closes_writeMembers ((secondKey, second) :: others) after)
    have comma : Begins (writeMembers ((secondKey, second) :: others) after) .comma
        (writeString secondKey (':' :: write second (writeMembers others after))) := by
      rw [writeMembers]
      exact begins_mark (by simp) _
    exact properties_cons opening (begins_writeString key _) (begins_mark (by simp) _) holds
      (skipsComma_comma comma)
      (properties_write secondKey second others floatlessBehind.1 floatlessBehind.2 opening after)
termination_by others => sizeOf value + sizeOf others

end

/-- The JSON text of a value without floating-point numbers is a configuration text of that value.
Unlike in JSON there is no bound on the nesting. -/
theorem document_compact {value : Value} (floatless : value.Floatless) :
    document (Json.compact value).toList = .ok (some value) := by
  obtain ⟨token, behind, ⟨_, found⟩, _, read⟩ := holds_write value floatless [] closes_nil
  have text : (Json.compact value).toList = write value [] := String.toList_ofList
  rw [text, document]
  simp only [found, read, bind, Except.bind, next]

end EsqlTree.Config
