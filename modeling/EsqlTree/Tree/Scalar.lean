import EsqlTree.Decimal.Layout
import EsqlTree.Decimal.Reading
import EsqlTree.Json.Value

/-!
# Literals

What a literal is said to be (`LiteralType`), the value it has (`Scalar`), and how
a parameter placeholder refers to its value (`ParamKind`).

A value is read from source text only as the type says, and text that the type
does not fit stays a string. Integers are signed while 64 bits hold them so and
unsigned above; a value taken from a JSON number follows the same rule. The two
readings of a numeral differ where their grammars do: source text may begin with a
plus and with zeros, and its negative zero is the integer zero, whereas JSON's is a
decimal.
-/

namespace EsqlTree

/-- What a literal is said to be. -/
inductive LiteralType where
  | integer
  | decimal
  | boolean
  | null
  | keyword
  /-- A string literal as older query texts tag it. -/
  | string
  /-- A placeholder for a value bound later. -/
  | param
deriving DecidableEq, Repr

namespace LiteralType

/-- Every type once. -/
def all : List LiteralType := [.integer, .decimal, .boolean, .null, .keyword, .string, .param]

/-- The tag of a type. -/
def tag : LiteralType → String
  | .integer => "integer"
  | .decimal => "decimal"
  | .boolean => "boolean"
  | .null => "null"
  | .keyword => "keyword"
  | .string => "string"
  | .param => "param"

/-- The type of a tag. -/
def ofTag? (tag : String) : Option LiteralType := all.find? fun type => type.tag = tag

/-- Each type has its own tag. -/
theorem ofTag?_tag (type : LiteralType) : ofTag? type.tag = some type := by
  cases type <;> decide

end LiteralType

/-- How a placeholder refers to its bound value. -/
inductive ParamKind where
  /-- By its place among the placeholders without a name: `?`. -/
  | unnamed
  /-- By name: `?name`. -/
  | named
  /-- By number: `?1`. -/
  | positional
deriving DecidableEq, Repr

namespace ParamKind

/-- Every kind of placeholder once. -/
def all : List ParamKind := [.unnamed, .named, .positional]

/-- The tag of a kind of placeholder. -/
def tag : ParamKind → String
  | .unnamed => "unnamed"
  | .named => "named"
  | .positional => "positional"

/-- The kind of placeholder of a tag. -/
def ofTag? (tag : String) : Option ParamKind := all.find? fun kind => kind.tag = tag

/-- The kind of a placeholder by its text. One question mark in front is not part
of the name. -/
def ofPlaceholder (placeholder : String) : ParamKind :=
  let name :=
    match placeholder.toList with
    | '?' :: rest => rest
    | whole => whole
  if name.isEmpty then .unnamed
  else if name.all Text.isDigit then .positional
  else .named

/-- Each kind of placeholder has its own tag. -/
theorem ofTag?_tag (kind : ParamKind) : ofTag? kind.tag = some kind := by
  cases kind <;> decide

end ParamKind

/-- The value of a literal. -/
inductive Scalar where
  | string (s : String)
  /-- An integer that 64 bits hold with a sign. -/
  | integer (n : Int64)
  /-- An integer that 64 bits hold without a sign, meant for those that they do not
  hold with one. -/
  | unsigned (n : UInt64)
  | decimal (x : Binary64)
  | boolean (b : Bool)
  | null
deriving DecidableEq

namespace Scalar

/-- The signed integer that a text of an optional sign and digits denotes. -/
def int64? (text : List Char) : Option Int64 :=
  let (negative, digits) := Decimal.takeSign text
  match Text.natural? digits with
  | none => none
  | some magnitude =>
    let n : Int := if negative then -(magnitude : Int) else magnitude
    if -9223372036854775808 ≤ n ∧ n ≤ 9223372036854775807 then some (Int64.ofInt n) else none

/-- The unsigned integer that a text of an optional plus and digits denotes. -/
def uint64? (text : List Char) : Option UInt64 :=
  let digits :=
    match text with
    | '+' :: rest => rest
    | whole => whole
  match Text.natural? digits with
  | none => none
  | some n => if n ≤ 18446744073709551615 then some (UInt64.ofNat n) else none

/-- The truth value that a word denotes, in any case. -/
def truth? (text : String) : Option Bool :=
  if Text.lower text = "true" then some true
  else if Text.lower text = "false" then some false
  else none

/-- The value that a type makes of a text. -/
def ofText (type : LiteralType) (text : String) : Scalar :=
  match type with
  | .integer =>
    match int64? text.toList with
    | some n => .integer n
    | none =>
      match uint64? text.toList with
      | some n => .unsigned n
      | none => .string text
  | .decimal =>
    match Decimal.read? text with
    | some x => .decimal x
    | none => .string text
  | .boolean =>
    match truth? text with
    | some b => .boolean b
    | none => .string text
  | .null => .null
  | .keyword | .string | .param => .string text

/-- The value of a JSON number: an integer stays an integer. -/
def ofNumber : Json.Number → Scalar
  | .integer n =>
    if n.val ≤ 9223372036854775807 then .integer (Int64.ofInt n.val)
    else .unsigned (UInt64.ofNat n.val.toNat)
  | .float x => .decimal x.val

/-- The JSON form of a value. An infinity or NaN, having none, is `null`. -/
def toJson : Scalar → Json.Value
  | .string s => .string s
  | .integer n => .number (.ofInt64 n)
  | .unsigned n => .number (.ofUInt64 n)
  | .decimal x =>
    match Json.Number.ofBinary64? x with
    | some number => .number number
    | none => .null
  | .boolean b => .boolean b
  | .null => .null

/-- The text that shows a value to a reader. -/
def display : Scalar → String
  | .string s => s
  | .integer n => String.ofList (Text.signedDecimal n.toInt)
  | .unsigned n => String.ofList (Text.decimal n.toNat)
  | .decimal x => Decimal.display x
  | .boolean b => if b then "true" else "false"
  | .null => "null"

/-- The string, if the value is one. -/
def asString? : Scalar → Option String
  | .string s => some s
  | _ => none

/-- Equality of values, decimals compared as numbers. -/
def same : Scalar → Scalar → Bool
  | .decimal x, .decimal y => x.same y
  | left, right => left == right

end Scalar

end EsqlTree
