import EsqlTree.Tree.Kind
import EsqlTree.Tree.Location
import EsqlTree.Tree.Scalar

/-!
# Query trees

The nodes of a query's syntax tree. Every node has a `Header`; each kind adds what
is its own. Three sorts of places hold nodes:

* an `Item` is one node other than a command;
* a `Slot` is an argument of a function, an option, a list or a cast: an item, or a
  sequence of slots, so no command stands in it;
* a `Node` is what a command's arguments hold and what a tree has at its root: a
  command, an item, or a sequence of nodes.

Items below which no other node hangs are `Atom`s. An item whose tag belongs to no
kind is `Inert`: its header and its tag are all that is known of it.
-/

namespace EsqlTree

/-- What every node has. -/
structure Header where
  /-- The name of a node, in the sense of its kind. -/
  name : String := ""
  /-- The source text of a node. -/
  text : String := name
  /-- Where the source text stands in the query. -/
  location : Location := {}
  /-- Whether the node was made up after an error in the query. -/
  incomplete : Bool := false
deriving DecidableEq, Repr

/-- The header of a node of which only the name is given. -/
def Header.named (name : String) : Header := { name }

/-- How a function was written. -/
inductive CallForm where
  /-- A name and arguments in parentheses. -/
  | variadicCall
  /-- An operator in front of its operand. -/
  | unaryExpression
  /-- An operator behind its operand. -/
  | postfixUnaryExpression
  /-- An operator between its operands. -/
  | binaryExpression
deriving DecidableEq, Repr

namespace CallForm

/-- Every form once. -/
def all : List CallForm :=
  [.variadicCall, .unaryExpression, .postfixUnaryExpression, .binaryExpression]

/-- The tag of a form. -/
def tag : CallForm → String
  | .variadicCall => "variadic-call"
  | .unaryExpression => "unary-expression"
  | .postfixUnaryExpression => "postfix-unary-expression"
  | .binaryExpression => "binary-expression"

/-- The form of a tag. -/
def ofTag? (tag : String) : Option CallForm := all.find? fun form => form.tag = tag

/-- True of the forms of operators. -/
def isOperator : CallForm → Bool
  | .variadicCall => false
  | .unaryExpression | .postfixUnaryExpression | .binaryExpression => true

/-- Each form has its own tag. -/
theorem ofTag?_tag (form : CallForm) : ofTag? form.tag = some form := by
  cases form <;> decide

end CallForm

/-- What a source names. -/
inductive SourceType where
  | index
  | policy
deriving DecidableEq, Repr

namespace SourceType

/-- Every type of source once. -/
def all : List SourceType := [.index, .policy]

/-- The tag of a type of source. -/
def tag : SourceType → String
  | .index => "index"
  | .policy => "policy"

/-- The type of source of a tag. -/
def ofTag? (tag : String) : Option SourceType := all.find? fun type => type.tag = tag

/-- Each type of source has its own tag. -/
theorem ofTag?_tag (type : SourceType) : ofTag? type.tag = some type := by
  cases type <;> decide

end SourceType

/-- A mode of a command. -/
structure CommandMode extends Header
deriving DecidableEq

/-- An index pattern or an enrich policy. -/
structure Source extends Header where
  /-- Whether it is an index or a policy. -/
  sourceType : SourceType := .index
  /-- The remote cluster, if one is named. -/
  cluster : Option String := none
  /-- The index without its cluster, if that is known apart. -/
  index : Option String := none
deriving DecidableEq

/-- A reference to a column. -/
structure Column extends Header where
  /-- The segments of a dotted path, as far as they are known. -/
  parts : List String := []
  /-- Whether the reference was written in quotes. -/
  quoted : Bool := false
deriving DecidableEq

/-- A scalar literal or a parameter placeholder. -/
structure Literal extends Header where
  /-- What the literal is said to be. -/
  literalType : LiteralType
  /-- The value, which need not be of that type. -/
  value : Scalar
  /-- How a placeholder refers to its value. -/
  paramKind : Option ParamKind := none
deriving DecidableEq

/-- A time span. -/
structure TimeInterval extends Header where
  /-- How many units the span has. -/
  quantity : Int64
  /-- The unit as written. -/
  unit : String
deriving DecidableEq

/-- A fragment that could not be classified. -/
structure Unclassified extends Header
deriving DecidableEq

/-- A node whose tag belongs to no kind, or to none that its place admits. -/
structure Inert extends Header where
  /-- The tag as written. -/
  tag : String
deriving DecidableEq

/-- An item below which nothing hangs. -/
inductive Atom where
  | mode (node : CommandMode)
  | source (node : Source)
  | column (node : Column)
  | literal (node : Literal)
  | timeInterval (node : TimeInterval)
  | unclassified (node : Unclassified)
  | inert (node : Inert)
deriving DecidableEq

mutual

/-- A function call or an operator expression; an operator is a function named by
its sign. -/
structure FunctionCall extends Header where
  /-- How it was written, if that is known. -/
  form : Option CallForm := none
  /-- The arguments or operands. -/
  args : List Slot := []

/-- An option of a command. -/
structure CommandOption extends Header where
  /-- The arguments. -/
  args : List Slot := []

/-- A list of values. -/
structure ListLiteral extends Header where
  /-- The values. -/
  values : List Slot := []

/-- A cast written behind its operand. -/
structure InlineCast extends Header where
  /-- The operand. -/
  value : Slot
  /-- The type it is cast to, as written. -/
  castType : String

/-- One node other than a command. -/
inductive Item where
  | atom (node : Atom)
  | function (node : FunctionCall)
  | option (node : CommandOption)
  | list (node : ListLiteral)
  | inlineCast (node : InlineCast)

/-- An argument: one item, or a sequence of arguments. -/
inductive Slot where
  | single (item : Item)
  | seq (slots : List Slot)

end

mutual

/-- A pipeline command. -/
structure Command extends Header where
  /-- The arguments. -/
  args : List Node := []

/-- A command, an item, or a sequence of nodes. -/
inductive Node where
  | command (node : Command)
  | single (item : Item)
  | seq (nodes : List Node)

end

/-- What a tree has at its root: a node, or nothing. -/
abbrev Root := Option Node

namespace Atom

/-- The header of an atom. -/
def header : Atom → Header
  | .mode node => node.toHeader
  | .source node => node.toHeader
  | .column node => node.toHeader
  | .literal node => node.toHeader
  | .timeInterval node => node.toHeader
  | .unclassified node => node.toHeader
  | .inert node => node.toHeader

/-- The kind of an atom; inert ones have none. -/
def kind? : Atom → Option Kind
  | .mode _ => some .mode
  | .source _ => some .source
  | .column _ => some .column
  | .literal _ => some .literal
  | .timeInterval _ => some .timeInterval
  | .unclassified _ => some .unknown
  | .inert _ => none

/-- The tag of an atom. -/
def tag : Atom → String
  | .mode _ => Kind.mode.tag
  | .source _ => Kind.source.tag
  | .column _ => Kind.column.tag
  | .literal _ => Kind.literal.tag
  | .timeInterval _ => Kind.timeInterval.tag
  | .unclassified _ => Kind.unknown.tag
  | .inert node => node.tag

end Atom

namespace Item

/-- The header of an item. -/
def header : Item → Header
  | .atom node => node.header
  | .function node => node.toHeader
  | .option node => node.toHeader
  | .list node => node.toHeader
  | .inlineCast node => node.toHeader

/-- The kind of an item; inert ones have none. -/
def kind? : Item → Option Kind
  | .atom node => node.kind?
  | .function _ => some .function
  | .option _ => some .option
  | .list _ => some .list
  | .inlineCast _ => some .inlineCast

/-- The tag of an item. -/
def tag : Item → String
  | .atom node => node.tag
  | .function _ => Kind.function.tag
  | .option _ => Kind.option.tag
  | .list _ => Kind.list.tag
  | .inlineCast _ => Kind.inlineCast.tag

end Item

mutual

/-- A slot where a node may stand: the same items in the same sequences. -/
def Slot.toNode : Slot → Node
  | .single item => .single item
  | .seq slots => .seq (Slot.toNodes slots)

/-- Slots one by one where nodes may stand. -/
def Slot.toNodes : List Slot → List Node
  | [] => []
  | slot :: others => slot.toNode :: Slot.toNodes others

end

mutual

/-- A node where a slot may stand, unless it holds a command through sequences
alone. -/
def Node.toSlot? : Node → Option Slot
  | .command _ => none
  | .single item => some (.single item)
  | .seq nodes => (Node.toSlots? nodes).map .seq

/-- Nodes one by one where slots may stand. -/
def Node.toSlots? : List Node → Option (List Slot)
  | [] => some []
  | node :: others =>
    match node.toSlot?, Node.toSlots? others with
    | some slot, some slots => some (slot :: slots)
    | _, _ => none

end

namespace Node

/-- The kind of a node; sequences and inert items have none. -/
def kind? : Node → Option Kind
  | .command _ => some .command
  | .single item => item.kind?
  | .seq _ => none

/-- True of the empty sequence. -/
def isEmpty : Node → Bool
  | .seq [] => true
  | _ => false

end Node

/-- True of functions written as operators. -/
def FunctionCall.isOperator (node : FunctionCall) : Bool :=
  match node.form with
  | some form => form.isOperator
  | none => false

/-- True of placeholders. -/
def Literal.isParam (node : Literal) : Bool := decide (node.literalType = .param)

/-- A command of a name with arguments. -/
def Command.named (name : String) (args : List Node) : Command := { Header.named name with args }

/-- An option of a name with arguments. -/
def CommandOption.named (name : String) (args : List Slot) : CommandOption :=
  { Header.named name with args }

/-- A mode of a name. -/
def CommandMode.named (name : String) : CommandMode := { Header.named name with }

/-- A function of a name with arguments, not said to be an operator or a call. -/
def FunctionCall.named (name : String) (args : List Slot) : FunctionCall :=
  { Header.named name with args }

/-- An index of a name. -/
def Source.named (name : String) : Source := { Header.named name with }

/-- An enrich policy of a name. -/
def Source.policy (name : String) : Source := { Header.named name with sourceType := .policy }

/-- A column of a name, without path segments. -/
def Column.named (name : String) : Column := { Header.named name with }

/-- A literal of a type, named by its text and with the value that the type makes of
it. -/
def Literal.ofText (type : LiteralType) (text : String) : Literal :=
  { Header.named text with literalType := type, value := .ofText type text }

/-- A placeholder, classified by its text. -/
def Literal.param (placeholder : String) : Literal :=
  { Literal.ofText .param placeholder with
    paramKind := some (.ofPlaceholder placeholder) }

/-- A list of a name with values. -/
def ListLiteral.named (name : String) (values : List Slot) : ListLiteral :=
  { Header.named name with values }

/-- A time span of a name. -/
def TimeInterval.named (name : String) (quantity : Int64) (unit : String) : TimeInterval :=
  { Header.named name with quantity, unit }

/-- A cast of a name. -/
def InlineCast.named (name : String) (value : Slot) (castType : String) : InlineCast :=
  { Header.named name with value, castType }

/-- A fragment of a name that could not be classified. -/
def Unclassified.named (name : String) : Unclassified := { Header.named name with }

/-- An item of a name with a tag that belongs to no kind. -/
def Inert.named (tag name : String) : Inert := { Header.named name with tag }

end EsqlTree
