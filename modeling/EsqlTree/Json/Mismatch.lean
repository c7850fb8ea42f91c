import EsqlTree.Decimal.Layout
import EsqlTree.Json.Value
import EsqlTree.Text.Quoted

/-!
# When a value is not what is expected

A record that is read from a JSON value may be given as an object, member by member,
or as an array, place by place. A mismatch says what was found and what had been
expected; the wording is in `Mismatch.message` alone.
-/

namespace EsqlTree.Json

/-- What was found, as a message names it. -/
def Value.describe : Value → String
  | .null => "null"
  | .boolean b => "boolean `" ++ (if b then "true" else "false") ++ "`"
  | .number (.integer n) => "integer `" ++ String.ofList (Text.signedDecimal n.val) ++ "`"
  | .number (.float x) =>
    "floating point `" ++ String.ofList (Decimal.Layout.json.finite x.val) ++ "`"
  | .string s => "string " ++ Text.quoted s
  | .array _ => "sequence"
  | .object _ => "map"

/-- Why a value is not what is expected. -/
inductive Mismatch where
  /-- A value of another sort. -/
  | invalidType (found : Value) (expected : String)
  /-- An integer that is out of range. -/
  | integerOutOfRange (found : Integer) (expected : String)
  /-- An array with too few elements. -/
  | tooShort (length : Nat) (expected : String)
  /-- An array with more elements than there are places. -/
  | tooLong (length : Nat)
  /-- An object without a member that must be there. -/
  | missingField (key : String)
  /-- An object with a member that may not be there, and the keys that may be. -/
  | unknownField (key : String) (known : List String)
  /-- A name that is not among those there are. -/
  | unknownName (name : String) (known : List String)
  /-- An object that should have exactly one member. -/
  | notOneMember

/-- Names in code quotes, the last one after a conjunction where there are two. -/
def listNames (names : List String) : String :=
  let quotedNames := names.map fun name => "`" ++ name ++ "`"
  match quotedNames with
  | [first, second] => first ++ " or " ++ second
  | others => "one of " ++ String.intercalate ", " others

/-- The wording of a mismatch. -/
def Mismatch.message : Mismatch → String
  | .invalidType found expected =>
    "invalid type: " ++ found.describe ++ ", expected " ++ expected
  | .integerOutOfRange found expected =>
    "invalid value: " ++ (Value.number (.integer found)).describe ++ ", expected " ++ expected
  | .tooShort length expected =>
    "invalid length " ++ String.ofList (Text.decimal length) ++ ", expected " ++ expected
  | .tooLong length =>
    "invalid length " ++ String.ofList (Text.decimal length)
      ++ ", expected fewer elements in array"
  | .missingField key => "missing field `" ++ key ++ "`"
  | .unknownField key known =>
    "unknown field `" ++ key ++ "`, expected " ++ listNames known
  | .unknownName name known =>
    "unknown variant `" ++ name ++ "`, expected " ++ listNames known
  | .notOneMember => "invalid value: map, expected map with a single key"

end EsqlTree.Json
