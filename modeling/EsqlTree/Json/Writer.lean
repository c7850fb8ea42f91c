import EsqlTree.Decimal.Layout
import EsqlTree.Json.Value
import EsqlTree.Text.Numeral

/-!
# Writing a JSON text

Every function writes its part in front of a text that follows, so that writing
takes time proportional to the result and a reader can be followed along it.
`compact` puts no blank anywhere. `pretty` puts each element and member on a line
of its own, two blanks further in than the container, and keeps empty containers
closed; outside strings it differs from `compact` in blanks only.

In strings the quote, the backslash and the control characters below the space are
escaped, the latter by a letter where there is one. Every other character stands
for itself.
-/

namespace EsqlTree.Json

/-- The characters that stand for one character inside a string. -/
def escape (c : Char) : List Char :=
  if c = '"' then ['\\', '"']
  else if c = '\\' then ['\\', '\\']
  else if c = '\x08' then ['\\', 'b']
  else if c = '\x0c' then ['\\', 'f']
  else if c = '\n' then ['\\', 'n']
  else if c = '\r' then ['\\', 'r']
  else if c = '\t' then ['\\', 't']
  else if c.toNat < 0x20 then '\\' :: 'u' :: Text.fourHexDigits c.toNat
  else [c]

/-- The characters of a string and its closing quote. -/
def writeCharacters : List Char → List Char → List Char
  | [], after => '"' :: after
  | c :: rest, after => escape c ++ writeCharacters rest after

/-- A string with both quotes. -/
def writeString (s : String) (after : List Char) : List Char :=
  '"' :: writeCharacters s.toList after

/-- A number. -/
def writeNumber (number : Number) (after : List Char) : List Char :=
  match number with
  | .integer n => Text.signedDecimal n.val ++ after
  | .float x => Decimal.Layout.json.finite x.val ++ after

/-- A truth value. -/
def writeBoolean (b : Bool) (after : List Char) : List Char :=
  if b then 't' :: 'r' :: 'u' :: 'e' :: after
  else 'f' :: 'a' :: 'l' :: 's' :: 'e' :: after

mutual

/-- A value without blanks. -/
def write : Value → List Char → List Char
  | .null, after => 'n' :: 'u' :: 'l' :: 'l' :: after
  | .boolean b, after => writeBoolean b after
  | .number n, after => writeNumber n after
  | .string s, after => writeString s after
  | .array elements, after =>
    match elements with
    | [] => '[' :: ']' :: after
    | first :: others => '[' :: write first (writeElements others after)
  | .object members, after =>
    match members with
    | [] => '\x7b' :: '\x7d' :: after
    | (key, value) :: others =>
      '\x7b' :: writeString key (':' :: write value (writeMembers others after))

/-- The elements after another one, and the closing bracket. -/
def writeElements : List Value → List Char → List Char
  | [], after => ']' :: after
  | element :: others, after => ',' :: write element (writeElements others after)

/-- The members after another one, and the closing brace. -/
def writeMembers : List (String × Value) → List Char → List Char
  | [], after => '\x7d' :: after
  | (key, value) :: others, after =>
    ',' :: writeString key (':' :: write value (writeMembers others after))

end

/-- The text of a value without blanks. -/
def compact (value : Value) : String := String.ofList (write value [])

/-- A line feed and the blanks of an indentation level. -/
def newLine (level : Nat) (after : List Char) : List Char :=
  '\n' :: (List.replicate (2 * level) ' ' ++ after)

mutual

/-- A value laid out over lines, its first line standing where the text does. -/
def writePretty (level : Nat) : Value → List Char → List Char
  | .null, after => 'n' :: 'u' :: 'l' :: 'l' :: after
  | .boolean b, after => writeBoolean b after
  | .number n, after => writeNumber n after
  | .string s, after => writeString s after
  | .array elements, after =>
    match elements with
    | [] => '[' :: ']' :: after
    | first :: others =>
      '[' :: newLine (level + 1)
        (writePretty (level + 1) first (writePrettyElements level others after))
  | .object members, after =>
    match members with
    | [] => '\x7b' :: '\x7d' :: after
    | (key, value) :: others =>
      '\x7b' :: newLine (level + 1) (writeString key (':' :: ' ' ::
        writePretty (level + 1) value (writePrettyMembers level others after)))

/-- The elements after another one, and the closing bracket on a line of its own. -/
def writePrettyElements (level : Nat) : List Value → List Char → List Char
  | [], after => newLine level (']' :: after)
  | element :: others, after =>
    ',' :: newLine (level + 1)
      (writePretty (level + 1) element (writePrettyElements level others after))

/-- The members after another one, and the closing brace on a line of its own. -/
def writePrettyMembers (level : Nat) : List (String × Value) → List Char → List Char
  | [], after => newLine level ('\x7d' :: after)
  | (key, value) :: others, after =>
    ',' :: newLine (level + 1) (writeString key (':' :: ' ' ::
      writePretty (level + 1) value (writePrettyMembers level others after)))

end

/-- The text of a value laid out over lines. -/
def pretty (value : Value) : String := String.ofList (writePretty 0 value [])

end EsqlTree.Json
