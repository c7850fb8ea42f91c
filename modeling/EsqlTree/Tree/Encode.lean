import EsqlTree.Tree.Basic

/-!
# The JSON form of a tree

A node becomes an object that begins with its tag under `type` and its header, and
goes on with the fields of its kind in a fixed order. A field that may be absent is
left out when it is; every other field is written even where reading would supply
the same value. Sequences become arrays, and an absent root becomes `null`.
-/

namespace EsqlTree

/-- The header fields, in order. -/
def Header.members (header : Header) : Json.Members :=
  [("name", .string header.name), ("text", .string header.text),
    ("location", header.location.toJson), ("incomplete", .boolean header.incomplete)]

/-- An object for a node: the tag, the header, and the fields of its kind. -/
def nodeObject (tag : String) (header : Header) (own : Json.Members) : Json.Value :=
  .object (("type", .string tag) :: header.members ++ own)

/-- A field that is left out when it is absent. -/
def optionalMember (key : String) (value : Option String) : Json.Members :=
  match value with
  | some s => [(key, .string s)]
  | none => []

/-- The JSON form of a source. -/
def Source.toJson (node : Source) : Json.Value :=
  nodeObject Kind.source.tag node.toHeader
    (("sourceType", .string node.sourceType.tag)
      :: optionalMember "cluster" node.cluster ++ optionalMember "index" node.index)

/-- The JSON form of a column. -/
def Column.toJson (node : Column) : Json.Value :=
  nodeObject Kind.column.tag node.toHeader
    [("parts", .array (node.parts.map .string)), ("quoted", .boolean node.quoted)]

/-- The JSON form of a literal. -/
def Literal.toJson (node : Literal) : Json.Value :=
  nodeObject Kind.literal.tag node.toHeader
    (("literalType", .string node.literalType.tag) :: ("value", node.value.toJson)
      :: optionalMember "paramType" (node.paramKind.map ParamKind.tag))

/-- The JSON form of a time span. -/
def TimeInterval.toJson (node : TimeInterval) : Json.Value :=
  nodeObject Kind.timeInterval.tag node.toHeader
    [("quantity", .number (.ofInt64 node.quantity)), ("unit", .string node.unit)]

/-- The JSON form of an atom. -/
def Atom.toJson : Atom → Json.Value
  | .mode node => nodeObject Kind.mode.tag node.toHeader []
  | .source node => node.toJson
  | .column node => node.toJson
  | .literal node => node.toJson
  | .timeInterval node => node.toJson
  | .unclassified node => nodeObject Kind.unknown.tag node.toHeader []
  | .inert node => nodeObject node.tag node.toHeader []

mutual

/-- The JSON form of a function. -/
def FunctionCall.toJson : FunctionCall → Json.Value
  | ⟨header, form, args⟩ =>
    nodeObject Kind.function.tag header
      (optionalMember "subtype" (form.map CallForm.tag) ++ [("args", .array (Slot.toJsons args))])

/-- The JSON form of an option. -/
def CommandOption.toJson : CommandOption → Json.Value
  | ⟨header, args⟩ =>
    nodeObject Kind.option.tag header [("args", .array (Slot.toJsons args))]

/-- The JSON form of a list. -/
def ListLiteral.toJson : ListLiteral → Json.Value
  | ⟨header, values⟩ =>
    nodeObject Kind.list.tag header [("values", .array (Slot.toJsons values))]

/-- The JSON form of a cast. -/
def InlineCast.toJson : InlineCast → Json.Value
  | ⟨header, value, castType⟩ =>
    nodeObject Kind.inlineCast.tag header
      [("value", value.toJson), ("castType", .string castType)]

/-- The JSON form of an item. -/
def Item.toJson : Item → Json.Value
  | .atom node => node.toJson
  | .function node => node.toJson
  | .option node => node.toJson
  | .list node => node.toJson
  | .inlineCast node => node.toJson

/-- The JSON form of a slot. -/
def Slot.toJson : Slot → Json.Value
  | .single item => item.toJson
  | .seq slots => .array (Slot.toJsons slots)

/-- The JSON forms of slots, one by one. -/
def Slot.toJsons : List Slot → List Json.Value
  | [] => []
  | slot :: others => slot.toJson :: Slot.toJsons others

end

mutual

/-- The JSON form of a command. -/
def Command.toJson : Command → Json.Value
  | ⟨header, args⟩ =>
    nodeObject Kind.command.tag header [("args", .array (Node.toJsons args))]

/-- The JSON form of a node. -/
def Node.toJson : Node → Json.Value
  | .command node => node.toJson
  | .single item => item.toJson
  | .seq nodes => .array (Node.toJsons nodes)

/-- The JSON forms of nodes, one by one. -/
def Node.toJsons : List Node → List Json.Value
  | [] => []
  | node :: others => node.toJson :: Node.toJsons others

end

/-- The JSON form of a root. -/
def Root.toJson : Root → Json.Value
  | none => .null
  | some node => node.toJson

end EsqlTree
