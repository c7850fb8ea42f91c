import EsqlTree.Text.Numeral

/-!
# Where and why a JSON text is refused

A reader notes the reason and how many bytes it has not consumed; the position in
lines and columns follows from the whole text once. Bytes are those of the UTF-8
form. Two positions occur: where the reader stands, and one byte further on, which
is the byte that it looked at without accepting it. At the end of the text the two
are the same.
-/

namespace EsqlTree.Json

/-- Why a text is not a JSON text. -/
inductive Reason where
  | unfinishedValue
  | unfinishedString
  | unfinishedArray
  | unfinishedObject
  | expectedValue
  | expectedLiteral
  | expectedColon
  | expectedCommaOrBracket
  | expectedCommaOrBrace
  | invalidNumber
  | numberOutOfRange
  | controlCharacter
  | invalidEscape
  | loneSurrogate
  | unfinishedSurrogatePair
  | keyNotString
  | trailingComma
  | trailingCharacters
  | nestedTooDeeply
deriving DecidableEq, Repr

/-- The wording of a reason. -/
def Reason.message : Reason → String
  | .unfinishedValue => "EOF while parsing a value"
  | .unfinishedString => "EOF while parsing a string"
  | .unfinishedArray => "EOF while parsing a list"
  | .unfinishedObject => "EOF while parsing an object"
  | .expectedValue => "expected value"
  | .expectedLiteral => "expected ident"
  | .expectedColon => "expected `:`"
  | .expectedCommaOrBracket => "expected `,` or `]`"
  | .expectedCommaOrBrace => "expected `,` or `\x7d`"
  | .invalidNumber => "invalid number"
  | .numberOutOfRange => "number out of range"
  | .controlCharacter => "control character (\\u0000-\\u001F) found while parsing a string"
  | .invalidEscape => "invalid escape"
  | .loneSurrogate => "lone leading surrogate in hex escape"
  | .unfinishedSurrogatePair => "unexpected end of hex escape"
  | .keyNotString => "key must be a string"
  | .trailingComma => "trailing comma"
  | .trailingCharacters => "trailing characters"
  | .nestedTooDeeply => "recursion limit exceeded"

/-- The length of a text in bytes. -/
def byteLength : List Char → Nat
  | [] => 0
  | c :: rest => c.utf8Size + byteLength rest

/-- A reason, and the number of bytes after the position to which it belongs. -/
structure Failure where
  /-- Why reading stopped. -/
  reason : Reason
  /-- How many bytes follow the position that is reported. -/
  bytesLeft : Nat
deriving DecidableEq, Repr

/-- A failure where the rest of the text begins. -/
def Failure.before (reason : Reason) (rest : List Char) : Failure :=
  ⟨reason, byteLength rest⟩

/-- A failure behind the first byte of the rest of the text, if there is one. -/
def Failure.behind (reason : Reason) (rest : List Char) : Failure :=
  ⟨reason, byteLength rest - 1⟩

/-- A line, counted from one, and the bytes between its start and a position. -/
structure Position where
  line : Nat
  column : Nat
deriving DecidableEq, Repr

/-- The position that a number of bytes into the text reaches, counted on from a
position reached before. -/
def Position.advance (position : Position) : Nat → List Char → Position
  | 0, _ => position
  | _, [] => position
  | bytes, c :: rest =>
    if c = '\n' then Position.advance ⟨position.line + 1, 0⟩ (bytes - 1) rest
    else
      Position.advance ⟨position.line, position.column + min bytes c.utf8Size⟩
        (bytes - c.utf8Size) rest

/-- Why a JSON text is refused, and where. -/
structure SyntaxError where
  /-- Why it is refused. -/
  reason : Reason
  /-- The position that is reported. -/
  position : Position
deriving DecidableEq, Repr

/-- The refusal of a whole text that a failure within it amounts to. -/
def Failure.inText (failure : Failure) (text : List Char) : SyntaxError :=
  ⟨failure.reason,
    Position.advance ⟨1, 0⟩ (byteLength text - failure.bytesLeft) text⟩

/-- The wording of a refusal. -/
def SyntaxError.message (error : SyntaxError) : String :=
  error.reason.message ++ " at line " ++ String.ofList (Text.decimal error.position.line)
    ++ " column " ++ String.ofList (Text.decimal error.position.column)

end EsqlTree.Json
