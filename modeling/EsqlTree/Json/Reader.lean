import EsqlTree.Decimal.Reading
import EsqlTree.Json.Failure
import EsqlTree.Json.Numeral
import EsqlTree.Text.Step
import EsqlTree.Text.Surrogate

/-!
# Reading a JSON text

A recursive descent over characters. Each step hands back what it read together
with the rest of the text and the fact that the rest is shorter, so the recursion
ends by the length of the text and needs no other bound. Containers are counted
down as they open: within 127 of them no further one may be opened.

Blanks are the space, the tab, the line feed and the carriage return. All members
of an object are kept as written, also those whose key is written again later.
-/

namespace EsqlTree.Json

open Text (Step Part)

/-- True of the characters that may stand between tokens. -/
def isBlank (c : Char) : Bool := c == ' ' || c == '\t' || c == '\n' || c == '\r'

/-- A text without the blanks that it begins with. -/
def skipBlanks : List Char → List Char
  | [] => []
  | c :: rest => if isBlank c then skipBlanks rest else c :: rest

/-- Skipping blanks does not lengthen a text. -/
theorem length_skipBlanks_le (text : List Char) :
    (skipBlanks text).length ≤ text.length := by
  induction text with
  | nil => simp [skipBlanks]
  | cons c rest shorter =>
    simp only [skipBlanks]
    split <;> simp only [List.length_cons] <;> omega

/-- What follows the first character after blanks is shorter than the text. -/
theorem length_lt_of_skipBlanks {text rest : List Char} {c : Char}
    (found : skipBlanks text = c :: rest) : rest.length < text.length := by
  have := length_skipBlanks_le text
  rw [found, List.length_cons] at this
  omega

/-- A unit of four hexadecimal digits. With fewer than four bytes left, the text
ends within the unit; otherwise four bytes are consumed, hexadecimal or not. -/
def readUnit (text : List Char) : Except Failure (Step text Nat) :=
  let refused : Failure :=
    if byteLength text < 4 then ⟨.unfinishedString, 0⟩
    else ⟨.invalidEscape, byteLength text - 4⟩
  match text with
  | a :: b :: c :: d :: rest =>
    match Text.hexValue? a, Text.hexValue? b, Text.hexValue? c, Text.hexValue? d with
    | some high, some upper, some lower, some low =>
      let unit := ((high * 16 + upper) * 16 + lower) * 16 + low
      .ok ((((Step.char unit d rest).cons c).cons b).cons a)
    | _, _, _, _ => .error refused
  | _ => .error refused

/-- The second half of a surrogate pair, from its backslash on. -/
def readLowSurrogate (text : List Char) : Except Failure (Step text Nat) :=
  match text with
  | [] => .error (.before .unfinishedString [])
  | c :: rest =>
    if c = '\\' then
      match rest with
      | [] => .error (.before .unfinishedString [])
      | letter :: digits =>
        if letter = 'u' then do
          let unit ← readUnit digits
          if Text.isLowSurrogate unit.value then .ok ((unit.cons letter).cons c)
          else .error (.before .loneSurrogate unit.rest)
        else .error (.behind .unfinishedSurrogatePair (letter :: digits))
    else .error (.behind .unfinishedSurrogatePair (c :: rest))

/-- A character written as one unit or as a surrogate pair, after the letter `u`. -/
def readUnicodeEscape (text : List Char) : Except Failure (Step text Char) := do
  let unit ← readUnit text
  if Text.isLowSurrogate unit.value then .error (.before .loneSurrogate unit.rest)
  else if Text.isHighSurrogate unit.value then do
    let low ← readLowSurrogate unit.rest
    .ok (unit.andThen low Text.ofSurrogates)
  else .ok (unit.map Char.ofNat)

/-- The character that a letter after a backslash stands for, if it stands for one
by itself. -/
def escapedChar? (letter : Char) : Option Char :=
  if letter = '"' then some '"'
  else if letter = '\\' then some '\\'
  else if letter = '/' then some '/'
  else if letter = 'b' then some '\x08'
  else if letter = 'f' then some '\x0c'
  else if letter = 'n' then some '\n'
  else if letter = 'r' then some '\r'
  else if letter = 't' then some '\t'
  else none

/-- An escape, after its backslash. -/
def readEscape (text : List Char) : Except Failure (Step text Char) :=
  match text with
  | [] => .error (.before .unfinishedString [])
  | letter :: rest =>
    match escapedChar? letter with
    | some c => .ok (.char c letter rest)
    | none =>
      if letter = 'u' then do .ok ((← readUnicodeEscape rest).cons letter)
      else .error (.behind .invalidEscape (letter :: rest))

/-- The characters of a string, after its opening quote. -/
def readCharacters (text : List Char) : Except Failure (Step text (List Char)) :=
  match text with
  | [] => .error (.before .unfinishedString [])
  | c :: rest =>
    if c = '"' then .ok (.char [] c rest)
    else if c = '\\' then do
      let escaped ← readEscape rest
      have := escaped.shorter
      let others ← readCharacters escaped.rest
      .ok ((escaped.andThen others List.cons).cons c)
    else if c.toNat < 0x20 then .error (.behind .controlCharacter (c :: rest))
    else do
      let others ← readCharacters rest
      .ok ((others.map (c :: ·)).cons c)
termination_by text.length
decreasing_by all_goals simp only [List.length_cons]; omega

/-- The letters of a literal name, after its first one. -/
def readLetters : (letters text : List Char) → Except Failure (Part text Unit)
  | [], text => .ok (.nothing () text)
  | _ :: _, [] => .error (.before .unfinishedValue [])
  | letter :: letters, c :: rest =>
    if c = letter then do .ok ((← readLetters letters rest).cons c).toPart
    else .error (.behind .expectedLiteral (c :: rest))

/-- Why a text that should go on with a digit does not: it ends, or goes on with
something else. -/
def noDigit (text : List Char) : Failure :=
  .behind (if text.isEmpty then .unfinishedValue else .invalidNumber) text

/-- What follows the digit at which a power of ten, read from left to right,
leaves the range of signed integers of 32 bits. -/
def afterPowerOverflow? (power : Nat) : List Char → Option (List Char)
  | [] => none
  | c :: rest =>
    match Text.digitValue? c with
    | none => none
    | some digit =>
      if 2147483647 < power * 10 + digit then some rest
      else afterPowerOverflow? (power * 10 + digit) rest

/-- The digits of a fraction, if a point stands here. -/
def readFraction (text : List Char) : Except Failure (Part text (List Nat)) :=
  match text with
  | [] => .ok (.nothing [] [])
  | c :: rest =>
    if c = '.' then
      let digits := Text.takeDigits rest
      if digits.value.isEmpty then .error (noDigit rest)
      else .ok (digits.cons c).toPart
    else .ok (.nothing [] (c :: rest))

/-- A sign of a power of ten, negative only if it is a minus. -/
def readPowerSign (text : List Char) : Part text Bool :=
  match text with
  | [] => .nothing false []
  | c :: rest =>
    if c = '-' then (Step.char true c rest).toPart
    else if c = '+' then (Step.char false c rest).toPart
    else .nothing false (c :: rest)

/-- The power of ten of an exponent part, if one stands here. A positive power
that leaves its range is refused at once unless the significand is zero, and any other
one that does stands for a power that leaves nothing of the significand. -/
def readPower (significand : Nat) (text : List Char) : Except Failure (Part text (Option Int)) :=
  match text with
  | [] => .ok (.nothing none [])
  | c :: rest =>
    if c = 'e' ∨ c = 'E' then
      let sign := readPowerSign rest
      let digits := Text.takeDigits sign.rest
      let magnitude : Int := Text.ofDigits 10 digits.value
      let read (power : Int) : Part (c :: rest) (Option Int) :=
        ((sign.andThen digits fun _ _ => some power).cons c).toPart
      if digits.value.isEmpty then .error (noDigit sign.rest)
      else
        match afterPowerOverflow? 0 sign.rest with
        | some beyond =>
          if significand ≠ 0 ∧ sign.value = false then .error (.before .numberOutOfRange beyond)
          else .ok (read (-magnitude))
        | none => .ok (read (if sign.value then -magnitude else magnitude))
    else .ok (.nothing none (c :: rest))

/-- The rest of a number after its sign and its first digit. A whole part that begins
with zero consists of that zero. -/
def readAfterDigit (negative : Bool) (first : Nat) (text : List Char) :
    Except Failure (Part text Number) := do
  let others := Text.takeDigits text
  if first = 0 ∧ others.value ≠ [] then .error (.behind .invalidNumber text)
  else do
    let whole := first :: others.value
    let fraction ← readFraction others.rest
    let significand := (gatherFraction (gatherWhole 0 whole).1 fraction.value).1
    let power ← readPower significand fraction.rest
    let numeral : Numeral :=
      { negative, whole, fraction := fraction.value, power := power.value.getD 0,
        plain := fraction.value.isEmpty && power.value.isNone }
    match numeral.number? with
    | some number =>
      .ok (others.andThen (fraction.andThen power fun _ _ => number) fun _ number => number)
    | none => .error (.before .numberOutOfRange power.rest)

/-- A number after its sign. -/
def readUnsigned (negative : Bool) (text : List Char) : Except Failure (Step text Number) :=
  match text with
  | [] => .error (noDigit [])
  | c :: rest =>
    match Text.digitValue? c with
    | none => .error (noDigit (c :: rest))
    | some first => do .ok ((← readAfterDigit negative first rest).cons c)

/-- A number, from its sign or first digit on. -/
def readNumber (text : List Char) : Except Failure (Step text Number) :=
  match text with
  | [] => .error (noDigit [])
  | c :: rest =>
    if c = '-' then do .ok ((← readUnsigned true rest).cons c)
    else readUnsigned false (c :: rest)

mutual

/-- A value, within a number of containers that may still be opened. -/
def readValue (room : Nat) (text : List Char) : Except Failure (Step text Value) :=
  match found : skipBlanks text with
  | [] => .error (.behind .unfinishedValue [])
  | c :: rest =>
    have inside : rest.length < text.length := length_lt_of_skipBlanks found
    if c = '[' then
      match room with
      | 0 => .error (.behind .nestedTooDeeply (c :: rest))
      | room + 1 => do .ok (((← readArray room rest).map .array).within inside)
    else if c = '\x7b' then
      match room with
      | 0 => .error (.behind .nestedTooDeeply (c :: rest))
      | room + 1 => do .ok (((← readObject room rest).map .object).within inside)
    else if c = '"' then do
      .ok (((← readCharacters rest).map fun characters => .string (String.ofList characters)).within
        inside)
    else if c = 'n' then do
      .ok (((← readLetters ['u', 'l', 'l'] rest).map fun _ => .null).within inside)
    else if c = 't' then do
      .ok (((← readLetters ['r', 'u', 'e'] rest).map fun _ => .boolean true).within inside)
    else if c = 'f' then do
      .ok (((← readLetters ['a', 'l', 's', 'e'] rest).map fun _ => .boolean false).within inside)
    else if c = '-' then do
      .ok (((← readUnsigned true rest).map .number).within inside)
    else
      match Text.digitValue? c with
      | some first => do
        .ok (((← readAfterDigit false first rest).map .number).within inside)
      | none => .error (.behind .expectedValue (c :: rest))
termination_by (text.length, 0)

/-- The elements of an array, after its opening bracket. -/
def readArray (room : Nat) (text : List Char) : Except Failure (Step text (List Value)) :=
  match found : skipBlanks text with
  | [] => .error (.behind .unfinishedArray [])
  | c :: rest =>
    if c = ']' then .ok ⟨[], rest, length_lt_of_skipBlanks found⟩
    else readElements room text
termination_by (text.length, 2)

/-- The elements of an array from one of them on, to its closing bracket. -/
def readElements (room : Nat) (text : List Char) : Except Failure (Step text (List Value)) := do
  let element ← readValue room text
  have := element.shorter
  match found : skipBlanks element.rest with
  | [] => .error (.behind .unfinishedArray [])
  | c :: rest =>
    have inside : rest.length < element.rest.length := length_lt_of_skipBlanks found
    if c = ']' then .ok (element.andThen ⟨(), rest, inside⟩ fun first _ => [first])
    else if c = ',' then
      if (skipBlanks rest).head? = some ']' then
        .error (.behind .trailingComma (skipBlanks rest))
      else do
        let others ← readElements room rest
        .ok (element.andThen (others.within inside) List.cons)
    else .error (.behind .expectedCommaOrBracket (c :: rest))
termination_by (text.length, 1)

/-- The members of an object, after its opening brace. -/
def readObject (room : Nat) (text : List Char) : Except Failure (Step text Members) :=
  match found : skipBlanks text with
  | [] => .error (.behind .unfinishedObject [])
  | c :: rest =>
    have inside : rest.length < text.length := length_lt_of_skipBlanks found
    if c = '\x7d' then .ok ⟨[], rest, inside⟩
    else if c = '"' then do .ok ((← readMembers room rest).within inside)
    else .error (.behind .keyNotString (c :: rest))
termination_by (text.length, 0)

/-- The members of an object from inside the first key on, to its closing brace. -/
def readMembers (room : Nat) (text : List Char) : Except Failure (Step text Members) := do
  let key ← readCharacters text
  have := key.shorter
  match foundColon : skipBlanks key.rest with
  | [] => .error (.behind .unfinishedObject [])
  | colon :: valueText =>
    have insideKey : valueText.length < key.rest.length := length_lt_of_skipBlanks foundColon
    if colon = ':' then do
      let value ← readValue room valueText
      have := value.shorter
      let member := key.andThen (value.within insideKey) fun key value =>
        (String.ofList key, value)
      match foundEnd : skipBlanks value.rest with
      | [] => .error (.behind .unfinishedObject [])
      | c :: rest =>
        have insideValue : rest.length < value.rest.length := length_lt_of_skipBlanks foundEnd
        if c = '\x7d' then
          .ok (member.andThen ⟨(), rest, insideValue⟩ fun member _ => [member])
        else if c = ',' then
          match foundKey : skipBlanks rest with
          | [] => .error (.behind .unfinishedValue [])
          | quote :: keyText =>
            have insideRest : keyText.length < rest.length := length_lt_of_skipBlanks foundKey
            if quote = '"' then do
              let others ← readMembers room keyText
              .ok (member.andThen ((others.within insideRest).within insideValue) List.cons)
            else if quote = '\x7d' then .error (.behind .trailingComma (quote :: keyText))
            else .error (.behind .keyNotString (quote :: keyText))
        else .error (.behind .expectedCommaOrBrace (c :: rest))
    else .error (.behind .expectedColon (colon :: valueText))
termination_by (text.length, 0)

end

/-- How many containers may be open at once. -/
def nestingLimit : Nat := 127

/-- The value of a whole text: blanks may follow it, and nothing else. -/
def readRoot (text : List Char) : Except Failure Value := do
  let root ← readValue nestingLimit text
  match skipBlanks root.rest with
  | [] => .ok root.value
  | extra => .error (.behind .trailingCharacters extra)

/-- The value of a JSON text. -/
def read (text : String) : Except SyntaxError Value :=
  match readRoot text.toList with
  | .ok value => .ok value
  | .error failure => .error (failure.inText text.toList)

end EsqlTree.Json
