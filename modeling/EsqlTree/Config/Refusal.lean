import EsqlTree.Text.Numeral

/-!
# Where and why a configuration text is refused

A reason and a position in lines and columns, both counted from one and in
characters. Only a line feed ends a line. The end of the text is a position too.
-/

namespace EsqlTree.Config

/-- Why a surrogate in an escape stands for no character. -/
inductive SurrogateFault where
  /-- A high surrogate after which no escape follows. -/
  | unpairedHigh
  /-- A high surrogate after which the escape of something else follows. -/
  | mispairedHigh
  /-- A low surrogate by itself. -/
  | unpairedLow
deriving DecidableEq, Repr

/-- Why a text is no configuration text. -/
inductive Reason where
  | unterminatedComment
  | unterminatedString
  | unterminatedArray
  | unterminatedObject
  | unexpectedToken
  | unexpectedTokenInObject
  | unexpectedWord
  | unexpectedCloseBracket
  | unexpectedCloseBrace
  | unexpectedComma
  | unexpectedColon
  | expectedColon
  | expectedPropertyValue
  | expectedDigit
  | expectedDigitAfterSign
  | expectedExponent
  | expectedHexDigits
  | invalidEscape
  | doubleQuoteEscape
  | singleQuoteEscape
  | surrogate (digits : String) (fault : SurrogateFault)
  | severalValues
deriving DecidableEq, Repr

/-- The wording of what is wrong with a surrogate. -/
def SurrogateFault.message : SurrogateFault → String
  | .unpairedHigh => "unpaired high surrogate"
  | .mispairedHigh => "high surrogate not followed by low surrogate"
  | .unpairedLow => "unpaired low surrogate"

/-- The wording of a reason. -/
def Reason.message : Reason → String
  | .unterminatedComment => "Unterminated comment block"
  | .unterminatedString => "Unterminated string literal"
  | .unterminatedArray => "Unterminated array"
  | .unterminatedObject => "Unterminated object"
  | .unexpectedToken => "Unexpected token"
  | .unexpectedTokenInObject => "Unexpected token in object"
  | .unexpectedWord => "Unexpected word"
  | .unexpectedCloseBracket => "Unexpected close bracket"
  | .unexpectedCloseBrace => "Unexpected close brace"
  | .unexpectedComma => "Unexpected comma"
  | .unexpectedColon => "Unexpected colon"
  | .expectedColon => "Expected colon after the string or word in object property"
  | .expectedPropertyValue => "Expected value after colon in object property"
  | .expectedDigit => "Expected digit"
  | .expectedDigitAfterSign => "Expected digit following negative sign"
  | .expectedExponent => "Expected plus, minus, or digit in number literal"
  | .expectedHexDigits => "Expected four hex digits"
  | .invalidEscape => "Invalid escape"
  | .doubleQuoteEscape => "Invalid escape in single quote string"
  | .singleQuoteEscape => "Invalid escape in double quote string"
  | .surrogate digits fault =>
    "Invalid unicode escape sequence. '" ++ digits ++ " (" ++ fault.message
      ++ ")' is not a valid UTF8 character"
  | .severalValues => "Text cannot contain more than one JSON value"

/-- A reason, and the number of characters from its position to the end. -/
structure Refusal where
  /-- Why reading stopped. -/
  reason : Reason
  /-- How many characters follow from the position that is reported on. -/
  charsLeft : Nat
deriving DecidableEq, Repr

/-- A refusal where a rest of the text begins. -/
def Refusal.at (reason : Reason) (rest : List Char) : Refusal := ⟨reason, rest.length⟩

/-- The line and the column that a number of characters into the text reaches,
counted on from those reached before. -/
def advance (line column : Nat) : Nat → List Char → Nat × Nat
  | 0, _ => (line, column)
  | _, [] => (line, column)
  | chars + 1, c :: rest =>
    if c = '\n' then advance (line + 1) 1 chars rest else advance line (column + 1) chars rest

/-- The wording of a refusal within a whole text. -/
def Refusal.message (refusal : Refusal) (text : List Char) : String :=
  let position := advance 1 1 (text.length - refusal.charsLeft) text
  refusal.reason.message ++ " on line " ++ String.ofList (Text.decimal position.1)
    ++ " column " ++ String.ofList (Text.decimal position.2)

end EsqlTree.Config
