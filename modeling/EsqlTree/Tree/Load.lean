import EsqlTree.Json.Reader
import EsqlTree.Tree.Basic
import EsqlTree.Tree.Fault

/-!
# Loading a tree

A JSON value is loaded by its shape alone: the fields that a node needs have to be
there and to be of the right sort, and nothing is asked about what they mean. The
first fault ends loading. A node's own fields are looked at in a fixed order, its
header first, and a field that holds nodes is loaded where it stands in that order.
Fields that are not read may hold anything.

An absent field and one that is `null` are the same, except where a field must be
there and for the value of a literal, whose `null` is a value. A command is loaded as
one only where a node may stand; in a slot it is as inert as an unrecognised tag.
-/

namespace EsqlTree.Load

open Json (Value Members lookup)

/-- The tag of an object. -/
def tagOf (members : Members) (path : Path) : Except Fault String :=
  match lookup "type" members with
  | some (.string tag) => .ok tag
  | _ => .error (.missingType path)

/-- A string that may be absent. -/
def optionalString (members : Members) (field : Field) (path : Path) :
    Except Fault (Option String) :=
  match lookup field.key members with
  | none | some .null => .ok none
  | some (.string s) => .ok (some s)
  | some _ => .error (.invalidField path field .string)

/-- A truth value that is false if absent. -/
def optionalBoolean (members : Members) (field : Field) (path : Path) : Except Fault Bool :=
  match lookup field.key members with
  | none | some .null => .ok false
  | some (.boolean b) => .ok b
  | some _ => .error (.invalidField path field .boolean)

/-- A tag that may be absent, out of those that `ofTag?` knows. -/
def optionalTag {α : Type} (ofTag? : String → Option α) (expected : Expectation)
    (members : Members) (field : Field) (path : Path) : Except Fault (Option α) := do
  match ← optionalString members field path with
  | none => .ok none
  | some tag =>
    match ofTag? tag with
    | some value => .ok (some value)
    | none => .error (.invalidField path field expected)

/-- A field that must be there. It is smaller than the object. -/
def required (members : Members) (field : Field) (kind : Kind) (path : Path) :
    Except Fault { value : Value // sizeOf value < sizeOf members } :=
  match found : lookup field.key members with
  | some value => .ok ⟨value, Json.sizeOf_lookup found⟩
  | none => .error (.missingField path kind field)

/-- A string that must be there. -/
def requiredString (members : Members) (field : Field) (kind : Kind) (path : Path) :
    Except Fault String := do
  match ← required members field kind path with
  | ⟨.string s, _⟩ => .ok s
  | _ => .error (.invalidField path field .string)

/-- An array that must be there. Its elements are smaller than the object. -/
def requiredArray (members : Members) (field : Field) (kind : Kind) (path : Path) :
    Except Fault { elements : List Value // sizeOf elements < sizeOf members } := do
  match ← required members field kind path with
  | ⟨.array elements, smaller⟩ =>
    .ok ⟨elements, by simp only [Value.array.sizeOf_spec] at smaller; omega⟩
  | _ => .error (.invalidField path field .array)

/-- An offset of a location: an integer that 32 bits hold without a sign. -/
def offset? (key : String) (members : Members) : Option UInt32 :=
  match lookup key members with
  | some (.number (.integer n)) => n.toUInt32?
  | _ => none

/-- A location, which is at the start of the query if absent. -/
def location (members : Members) (path : Path) : Except Fault Location :=
  match lookup Field.location.key members with
  | none | some .null => .ok {}
  | some (.object ends) =>
    match offset? "min" ends, offset? "max" ends with
    | some min, some max => .ok { min, max }
    | _, _ => .error (.invalidField path .location .location)
  | some _ => .error (.invalidField path .location .location)

/-- The header of a node. The text is the name if it is absent. -/
def header (members : Members) (path : Path) : Except Fault Header := do
  let name := (← optionalString members .name path).getD ""
  let text := (← optionalString members .text path).getD name
  let location ← location members path
  let incomplete ← optionalBoolean members .incomplete path
  .ok { name, text, location, incomplete }

/-- A source with a header. -/
def source (header : Header) (members : Members) (path : Path) : Except Fault Source := do
  let sourceType ← optionalTag SourceType.ofTag? .sourceType members .sourceType path
  let cluster ← optionalString members .cluster path
  let index ← optionalString members .index path
  .ok { header with sourceType := sourceType.getD .index, cluster, index }

/-- The strings of an array of strings. -/
def strings? : List Value → Option (List String)
  | [] => some []
  | .string s :: others => (strings? others).map (s :: ·)
  | _ :: _ => none

/-- The path segments of a column, of which there are none if they are absent. -/
def parts (members : Members) (path : Path) : Except Fault (List String) :=
  match lookup Field.parts.key members with
  | none | some .null => .ok []
  | some (.array elements) =>
    match strings? elements with
    | some parts => .ok parts
    | none => .error (.invalidField path .parts .strings)
  | some _ => .error (.invalidField path .parts .strings)

/-- A column with a header. -/
def column (header : Header) (members : Members) (path : Path) : Except Fault Column := do
  let parts ← parts members path
  let quoted ← optionalBoolean members .quoted path
  .ok { header with parts, quoted }

/-- The type of a literal. -/
def literalType (members : Members) (path : Path) : Except Fault LiteralType := do
  let tag ← requiredString members .literalType .literal path
  match LiteralType.ofTag? tag with
  | some type => .ok type
  | none => .error (.invalidField path .literalType .literalType)

/-- The value of a literal: the one given, or if none is given, what its type makes
of its text. -/
def scalar (type : LiteralType) (text : String) (members : Members) (path : Path) :
    Except Fault Scalar :=
  match lookup Field.value.key members with
  | none => .ok (.ofText type text)
  | some (.string s) => .ok (.string s)
  | some .null => .ok .null
  | some (.boolean b) => .ok (.boolean b)
  | some (.number n) => .ok (.ofNumber n)
  | some _ => .error (.invalidField path .value .scalar)

/-- How a placeholder refers to its value: as given, or if that is absent, as its text
says. Other literals need not say anything. -/
def paramKind (type : LiteralType) (text : String) (members : Members) (path : Path) :
    Except Fault (Option ParamKind) := do
  match ← optionalTag ParamKind.ofTag? .paramKind members .paramType path with
  | some kind => .ok (some kind)
  | none => .ok (if type = .param then some (.ofPlaceholder text) else none)

/-- A literal with a header. -/
def literal (header : Header) (members : Members) (path : Path) : Except Fault Literal := do
  let literalType ← literalType members path
  let value ← scalar literalType header.text members path
  let paramKind ← paramKind literalType header.text members path
  .ok { header with literalType, value, paramKind }

/-- The number of units of a time span: an integer that 64 bits hold with a sign. -/
def quantity (members : Members) (path : Path) : Except Fault Int64 := do
  match ← required members .quantity .timeInterval path with
  | ⟨.number (.integer n), _⟩ =>
    match n.toInt64? with
    | some quantity => .ok quantity
    | none => .error (.invalidField path .quantity .integer)
  | _ => .error (.invalidField path .quantity .integer)

/-- A time span with a header. -/
def timeInterval (header : Header) (members : Members) (path : Path) :
    Except Fault TimeInterval := do
  let quantity ← quantity members path
  let unit ← requiredString members .unit .timeInterval path
  .ok { header with quantity, unit }

mutual

/-- An item with a tag, read from the members of its object. -/
def item (tag : String) (members : Members) (path : Path) : Except Fault Item := do
  let header ← header members path
  match Kind.ofTag? tag with
  | some .function => do
    let form ← optionalTag CallForm.ofTag? .callForm members .subtype path
    let ⟨elements, _⟩ ← requiredArray members .args .function path
    let args ← slots elements 0 (path.child .args)
    .ok (.function { header with form, args })
  | some .option => do
    let ⟨elements, _⟩ ← requiredArray members .args .option path
    let args ← slots elements 0 (path.child .args)
    .ok (.option { header with args })
  | some .list => do
    let ⟨elements, _⟩ ← requiredArray members .values .list path
    let values ← slots elements 0 (path.child .values)
    .ok (.list { header with values })
  | some .inlineCast => do
    let ⟨operand, _⟩ ← required members .value .inlineCast path
    let value ← slot operand (path.child .value)
    let castType ← requiredString members .castType .inlineCast path
    .ok (.inlineCast { header with value, castType })
  | some .mode => .ok (.atom (.mode { header with }))
  | some .source => do .ok (.atom (.source (← source header members path)))
  | some .column => do .ok (.atom (.column (← column header members path)))
  | some .literal => do .ok (.atom (.literal (← literal header members path)))
  | some .timeInterval => do .ok (.atom (.timeInterval (← timeInterval header members path)))
  | some .unknown => .ok (.atom (.unclassified { header with }))
  | some .command | none => .ok (.atom (.inert { header with tag }))
termination_by sizeOf members

/-- A slot. -/
def slot (value : Value) (path : Path) : Except Fault Slot :=
  match value with
  | .array elements => do .ok (.seq (← slots elements 0 path))
  | .object members => do
    let tag ← tagOf members path
    .ok (.single (← item tag members path))
  | other => .error (.notANode path other.kind)
termination_by sizeOf value

/-- Slots one by one, the first of them having a position in its array. -/
def slots (elements : List Value) (position : Nat) (path : Path) : Except Fault (List Slot) :=
  match elements with
  | [] => .ok []
  | element :: others => do
    let first ← slot element (path.child (.index position))
    let rest ← slots others (position + 1) path
    .ok (first :: rest)
termination_by sizeOf elements

end

mutual

/-- A command, read from the members of its object. -/
def command (members : Members) (path : Path) : Except Fault Command := do
  let header ← header members path
  let ⟨elements, _⟩ ← requiredArray members .args .command path
  let args ← nodes elements 0 (path.child .args)
  .ok { header with args }
termination_by sizeOf members

/-- A node. -/
def node (value : Value) (path : Path) : Except Fault Node :=
  match value with
  | .array elements => do .ok (.seq (← nodes elements 0 path))
  | .object members => do
    let tag ← tagOf members path
    if tag = Kind.command.tag then .ok (.command (← command members path))
    else .ok (.single (← item tag members path))
  | other => .error (.notANode path other.kind)
termination_by sizeOf value

/-- Nodes one by one, the first of them having a position in its array. -/
def nodes (elements : List Value) (position : Nat) (path : Path) : Except Fault (List Node) :=
  match elements with
  | [] => .ok []
  | element :: others => do
    let first ← node element (path.child (.index position))
    let rest ← nodes others (position + 1) path
    .ok (first :: rest)
termination_by sizeOf elements

end

/-- The tree of a JSON value, of which `null` is the absent one. -/
def root : Value → Except Fault Root
  | .null => .ok none
  | value => do .ok (some (← node value {}))

end EsqlTree.Load

namespace EsqlTree

/-- Why a text could not be loaded. -/
inductive LoadError where
  /-- It is no JSON text. -/
  | invalidJson (error : Json.SyntaxError)
  /-- Its value is no tree. -/
  | malformed (fault : Fault)
deriving DecidableEq, Repr

namespace LoadError

/-- The wording of an error. -/
def message : LoadError → String
  | .invalidJson error => "Invalid JSON: " ++ error.message
  | .malformed fault => fault.message

/-- The path of the value at fault, if there is a value. -/
def path? : LoadError → Option Path
  | .invalidJson _ => none
  | .malformed fault => some fault.path

end LoadError

/-- The tree of a JSON text. -/
def load (text : String) : Except LoadError Root :=
  match Json.read text with
  | .error error => .error (.invalidJson error)
  | .ok value =>
    match Load.root value with
    | .ok root => .ok root
    | .error fault => .error (.malformed fault)

end EsqlTree
