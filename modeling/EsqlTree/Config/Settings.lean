import EsqlTree.Config.Document
import EsqlTree.Json.Mismatch

/-!
# Settings

What a configuration text may set: the format of the output and the names of the
functions that a report looks for. Both may be left out, and nothing else may be
there. The members of the object are looked at in the order of their keys, and the
first mismatch is reported. An array gives the settings by place.
-/

namespace EsqlTree

/-- How results are written. -/
inductive OutputFormat where
  | text
  | json
deriving DecidableEq, Repr

namespace OutputFormat

/-- Every format once. -/
def all : List OutputFormat := [.text, .json]

/-- The name of a format. -/
def name : OutputFormat → String
  | .text => "text"
  | .json => "json"

/-- The format of a name. -/
def ofName? (name : String) : Option OutputFormat := all.find? fun format => format.name = name

/-- No two formats have one name. -/
@[simp] theorem ofName?_name (format : OutputFormat) : ofName? format.name = some format := by
  cases format <;> decide

end OutputFormat

/-- The settings of a run. -/
structure Settings where
  /-- The format of the output where none is asked for. -/
  format : OutputFormat := .text
  /-- The names of the functions that a report looks for. -/
  functions : List String := []
deriving DecidableEq

namespace Settings

open Json (Value Members Mismatch)

/-- The keys that settings may have. -/
def keys : List String := ["format", "functions"]

/-- The format of a name, or why there is none. -/
def formatNamed (name : String) : Except Mismatch OutputFormat :=
  match OutputFormat.ofName? name with
  | some format => .ok format
  | none => .error (.unknownName name (OutputFormat.all.map OutputFormat.name))

/-- The format that a value stands for: its name, or an object whose only key is the
name and whose value is `null`. -/
def formatOf : Value → Except Mismatch OutputFormat
  | .string name => formatNamed name
  | .object members =>
    match Json.entries members with
    | [(name, content)] => do
      let format ← formatNamed name
      match content with
      | .null => .ok format
      | other => .error (.invalidType other "unit")
    | _ => .error .notOneMember
  | other => .error (.invalidType other "string or map")

/-- The strings of a list of values. -/
def namesOf : List Value → Except Mismatch (List String)
  | [] => .ok []
  | .string name :: others => do .ok (name :: (← namesOf others))
  | other :: _ => .error (.invalidType other "a string")

/-- The function names that a value stands for. -/
def functionsOf : Value → Except Mismatch (List String)
  | .array elements => namesOf elements
  | other => .error (.invalidType other "a sequence")

/-- Settings with one more member taken into account. -/
def withMember (settings : Settings) (key : String) (value : Value) : Except Mismatch Settings :=
  if key = "format" then do .ok { settings with format := ← formatOf value }
  else if key = "functions" then do .ok { settings with functions := ← functionsOf value }
  else .error (.unknownField key keys)

/-- Settings with members taken into account one after the other. -/
def withMembers (settings : Settings) : Members → Except Mismatch Settings
  | [] => .ok settings
  | (key, value) :: others => do
    let next ← settings.withMember key value
    next.withMembers others

/-- The settings that a value stands for. -/
def ofJson : Value → Except Mismatch Settings
  | .object members => withMembers {} (Json.entries members)
  | .array elements =>
    match elements with
    | [] => .ok {}
    | [first] => do .ok { format := ← formatOf first }
    | first :: second :: others => do
      let format ← formatOf first
      let functions ← functionsOf second
      if others.isEmpty then .ok { format, functions } else .error (.tooLong elements.length)
  | other => .error (.invalidType other "struct WalkConfig")

end Settings

/-- Why a configuration text gives no settings. -/
inductive SettingsError where
  /-- It is no configuration text. -/
  | parse (refusal : Config.Refusal) (text : List Char)
  /-- Its value is no settings. -/
  | invalid (mismatch : Json.Mismatch)

/-- The wording of an error. -/
def SettingsError.message : SettingsError → String
  | .parse refusal text => "Failed to parse config: " ++ refusal.message text
  | .invalid mismatch => "Invalid config: " ++ mismatch.message

/-- The settings of a configuration text. A text without a value sets nothing. -/
def Settings.read (text : String) : Except SettingsError Settings :=
  match Config.document text.toList with
  | .error refusal => .error (.parse refusal text.toList)
  | .ok none => .ok {}
  | .ok (some value) =>
    match Settings.ofJson value with
    | .ok settings => .ok settings
    | .error mismatch => .error (.invalid mismatch)

end EsqlTree
