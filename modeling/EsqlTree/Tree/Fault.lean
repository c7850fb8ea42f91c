import EsqlTree.Json.Value
import EsqlTree.Text.Numeral
import EsqlTree.Tree.Kind

/-!
# What is wrong with a JSON value that is no tree

A fault names the node at which it was found by a path from the value at the top.
Each fault is local: it is about the value at the end of the path and the fields
that value has itself. The wording of faults is in `Fault.message` alone.
-/

namespace EsqlTree

/-- The way from a value to one below it that holds a node. -/
inductive Step where
  /-- An element of an array. -/
  | index (position : Nat)
  /-- The arguments of a node. -/
  | args
  /-- The values of a list. -/
  | values
  /-- The operand of a cast. -/
  | value
deriving DecidableEq, Repr

/-- The text of a step. -/
def Step.render : Step → String
  | .index position => "[" ++ String.ofList (Text.decimal position) ++ "]"
  | .args => ".args"
  | .values => ".values"
  | .value => ".value"

/-- Where a value stands: what its top is called, and the steps from there. -/
structure Path where
  /-- What the value at the top is called. -/
  origin : String := "$"
  /-- The steps down, outermost first. -/
  steps : List Step := []
deriving DecidableEq, Repr

namespace Path

/-- The path of a value one step further down. -/
def child (path : Path) (step : Step) : Path := { path with steps := path.steps ++ [step] }

/-- The text of a path. -/
def render (path : Path) : String := path.origin ++ String.join (path.steps.map Step.render)

end Path

/-- The fields that a node is read from. -/
inductive Field where
  | name
  | text
  | location
  | incomplete
  | args
  | subtype
  | sourceType
  | cluster
  | index
  | parts
  | quoted
  | literalType
  | value
  | paramType
  | values
  | quantity
  | unit
  | castType
deriving DecidableEq, Repr

/-- The key of a field. -/
def Field.key : Field → String
  | .name => "name"
  | .text => "text"
  | .location => "location"
  | .incomplete => "incomplete"
  | .args => "args"
  | .subtype => "subtype"
  | .sourceType => "sourceType"
  | .cluster => "cluster"
  | .index => "index"
  | .parts => "parts"
  | .quoted => "quoted"
  | .literalType => "literalType"
  | .value => "value"
  | .paramType => "paramType"
  | .values => "values"
  | .quantity => "quantity"
  | .unit => "unit"
  | .castType => "castType"

/-- What the value of a field has to be. -/
inductive Expectation where
  | string
  | boolean
  | array
  | integer
  | scalar
  | strings
  | location
  | callForm
  | sourceType
  | literalType
  | paramKind
deriving DecidableEq, Repr

/-- The wording of an expectation. -/
def Expectation.describe : Expectation → String
  | .string => "a string"
  | .boolean => "a boolean"
  | .array => "an array"
  | .integer => "an integer"
  | .scalar => "a scalar"
  | .strings => "an array of strings"
  | .location => "an object with integer \"min\" and \"max\""
  | .callForm => "a function subtype"
  | .sourceType => "\"index\" or \"policy\""
  | .literalType => "a literal type"
  | .paramKind => "a parameter type"

/-- The wording of the kind of a value. -/
def Json.Kind.describe : Json.Kind → String
  | .null => "null"
  | .boolean => "a boolean"
  | .number => "a number"
  | .string => "a string"
  | .array => "an array"
  | .object => "an object"

/-- A fault of a JSON value that should be a tree. -/
inductive Fault where
  /-- A node should stand here, but the value is neither an object nor an array. -/
  | notANode (path : Path) (found : Json.Kind)
  /-- The object has no string under `type`. -/
  | missingType (path : Path)
  /-- The object lacks a field that nodes of its kind must have. -/
  | missingField (path : Path) (kind : Kind) (field : Field)
  /-- The object has the field, but its value is not what it has to be. -/
  | invalidField (path : Path) (field : Field) (expected : Expectation)
deriving DecidableEq, Repr

namespace Fault

/-- The path of the value at fault. -/
def path : Fault → Path
  | .notANode path _ => path
  | .missingType path => path
  | .missingField path _ _ => path
  | .invalidField path _ _ => path

/-- The wording of a fault. -/
def message : Fault → String
  | .notANode path found =>
    "Expected a node object or array at " ++ path.render ++ ", found " ++ found.describe
  | .missingType path => "Node at " ++ path.render ++ " has no \"type\" tag"
  | .missingField path kind field =>
    kind.tag ++ " node at " ++ path.render ++ " is missing required field \"" ++ field.key ++ "\""
  | .invalidField path field expected =>
    "Field \"" ++ field.key ++ "\" of node at " ++ path.render ++ " must be " ++ expected.describe

end Fault

end EsqlTree
