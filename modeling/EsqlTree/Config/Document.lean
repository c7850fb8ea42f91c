import EsqlTree.Config.Token
import EsqlTree.Json.Reader

/-!
# The value of a configuration text

A text holds at most one value; one of blanks and comments alone holds none. The
comma after an element or a property may be left out, and one may stand after the
last. Keys are strings, words or numbers, the latter two as written. Containers may
nest to any depth.

A hexadecimal number is an integer of 64 bits with sign; another number is what its
numeral denotes in JSON, a plus in front being dropped. A number that is out of range
stays a string, as written.
-/

namespace EsqlTree.Config

open Json (Value Members)
open Text (Step Part)

/-- The integer that a hexadecimal numeral denotes, if the numeral is one: no integer if
64 bits do not hold it with a sign. -/
def hexInteger? (numeral : List Char) : Option (Option Json.Number) :=
  let (negative, unsigned) := Decimal.takeSign numeral
  match unsigned with
  | '0' :: mark :: digits =>
    if mark = 'x' ∨ mark = 'X' then
      let magnitude := Text.ofDigits 16 (digits.filterMap Text.hexValue?)
      if magnitude ≤ 9223372036854775807 then
        let n : Int := if negative then -(magnitude : Int) else magnitude
        some (some (.ofInt64 (Int64.ofInt n)))
      else some none
    else none
  | _ => none

/-- The number that a numeral denotes in JSON after dropping a plus, if it is in range. -/
def jsonNumber? (numeral : List Char) : Option Json.Number :=
  let unsigned :=
    match numeral with
    | '+' :: rest => rest
    | whole => whole
  match Json.readNumber unsigned with
  | .ok step => if step.rest.isEmpty then some step.value else none
  | .error _ => none

/-- The value of a number as written. -/
def numberValue (numeral : List Char) : Value :=
  let number? :=
    match hexInteger? numeral with
    | some integer? => integer?
    | none => jsonNumber? numeral
  match number? with
  | some number => .number number
  | none => .string (String.ofList numeral)

/-- The key that a token stands for where a key may stand. -/
def keyOf? : Token → Option String
  | .string s => some s
  | .word letters => some (String.ofList letters)
  | .number numeral => some (String.ofList numeral)
  | _ => none

/-- Leaves out a comma, if one follows. -/
def skipComma (text : List Char) : Except Refusal (Part text Unit) := do
  match ← next text with
  | some step =>
    if step.value.token = .comma then .ok (step.map fun _ => ()).toPart
    else .ok (.nothing () text)
  | none => .ok (.nothing () text)

/-- The colon after a key. -/
def expectColon (text : List Char) : Except Refusal (Step text Unit) := do
  match ← next text with
  | none => .error (.at .expectedColon [])
  | some step =>
    if step.value.token = .colon then .ok (step.map fun _ => ())
    else .error (.at .expectedColon step.value.start)

/-- The first token of the value after a colon. -/
def expectPropertyValue (text : List Char) : Except Refusal (Step text Lexeme) := do
  match ← next text with
  | none => .error (.at .expectedPropertyValue [])
  | some step => .ok step

mutual

/-- The value that begins with a token which was read already. -/
def valueFrom (lexeme : Lexeme) (text : List Char) : Except Refusal (Part text Value) :=
  match lexeme.token with
  | .openBrace => do .ok ((← properties lexeme.start text).map .object).toPart
  | .openBracket => do .ok ((← elements lexeme.start text).map .array).toPart
  | .string s => .ok (.nothing (.string s) text)
  | .number numeral => .ok (.nothing (numberValue numeral) text)
  | .boolean b => .ok (.nothing (.boolean b) text)
  | .null => .ok (.nothing .null text)
  | .closeBracket => .error (.at .unexpectedCloseBracket lexeme.start)
  | .closeBrace => .error (.at .unexpectedCloseBrace lexeme.start)
  | .comma => .error (.at .unexpectedComma lexeme.start)
  | .colon => .error (.at .unexpectedColon lexeme.start)
  | .word _ => .error (.at .unexpectedWord lexeme.start)
termination_by (text.length, 1)

/-- The elements of an array to its closing bracket. The position of its opening bracket
is for the case that the array does not end. -/
def elements (opening text : List Char) : Except Refusal (Step text (List Value)) := do
  match ← next text with
  | none => .error (.at .unterminatedArray opening)
  | some step =>
    have := step.shorter
    if step.value.token = .closeBracket then .ok (step.map fun _ => [])
    else
      let value ← valueFrom step.value step.rest
      have := value.notLonger
      let comma ← skipComma value.rest
      have := comma.notLonger
      let others ← elements opening comma.rest
      .ok (step.andThen (value.andStep (comma.andStep others fun _ others => others) List.cons)
        fun _ values => values)
termination_by (text.length, 0)

/-- The properties of an object to its closing brace. The position of its opening brace
is for the case that the object does not end. -/
def properties (opening text : List Char) : Except Refusal (Step text Members) := do
  match ← next text with
  | none => .error (.at .unterminatedObject opening)
  | some step =>
    have := step.shorter
    if step.value.token = .closeBrace then .ok (step.map fun _ => [])
    else
      match keyOf? step.value.token with
      | none => .error (.at .unexpectedTokenInObject step.value.start)
      | some key =>
        let colon ← expectColon step.rest
        have := colon.shorter
        let first ← expectPropertyValue colon.rest
        have := first.shorter
        let value ← valueFrom first.value first.rest
        have := value.notLonger
        let comma ← skipComma value.rest
        have := comma.notLonger
        let others ← properties opening comma.rest
        .ok (step.andThen
          (colon.andThen
            (first.andThen
              (value.andStep (comma.andStep others fun _ others => others)
                fun value others => (key, value) :: others)
              fun _ members => members)
            fun _ members => members)
          fun _ members => members)
termination_by (text.length, 0)

end

/-- The value of a whole text, if it holds one. -/
def document (text : List Char) : Except Refusal (Option Value) := do
  match ← next text with
  | none => .ok none
  | some step =>
    let value ← valueFrom step.value step.rest
    match ← next value.rest with
    | none => .ok (some value.value)
    | some extra => .error (.at .severalValues extra.value.start)

end EsqlTree.Config
