/-!
# Node kinds

The kinds of nodes that have a tag of their own. The tag is what a node's `type`
field holds in JSON. A node with any other tag has no kind.
-/

namespace EsqlTree

/-- The kinds of nodes. -/
inductive Kind where
  /-- A pipeline command. -/
  | command
  /-- An option of a command. -/
  | option
  /-- A mode of a command. -/
  | mode
  /-- A function call or an operator expression. -/
  | function
  /-- An index or an enrich policy. -/
  | source
  /-- A reference to a column. -/
  | column
  /-- A scalar literal or a parameter placeholder. -/
  | literal
  /-- A list of values. -/
  | list
  /-- A time span. -/
  | timeInterval
  /-- A cast written behind its operand. -/
  | inlineCast
  /-- A fragment that could not be classified. -/
  | unknown
deriving DecidableEq, Repr

namespace Kind

/-- Every kind once. -/
def all : List Kind :=
  [.command, .option, .mode, .function, .source, .column, .literal, .list, .timeInterval,
    .inlineCast, .unknown]

/-- The tag of a kind. -/
def tag : Kind → String
  | .command => "command"
  | .option => "option"
  | .mode => "mode"
  | .function => "function"
  | .source => "source"
  | .column => "column"
  | .literal => "literal"
  | .list => "list"
  | .timeInterval => "timeInterval"
  | .inlineCast => "inlineCast"
  | .unknown => "unknown"

/-- The kind of a tag. -/
def ofTag? (tag : String) : Option Kind := all.find? fun kind => kind.tag = tag

/-- True of the kinds below which a walk never descends. -/
def isLeaf : Kind → Bool
  | .mode | .source | .column | .literal | .timeInterval | .inlineCast | .unknown => true
  | .command | .option | .function | .list => false

/-- Each kind has its own tag. -/
theorem ofTag?_tag (kind : Kind) : ofTag? kind.tag = some kind := by
  cases kind <;> decide

/-- A tag has the kind whose tag it is, and no other. -/
theorem ofTag?_eq_some_iff (tag : String) (kind : Kind) :
    ofTag? tag = some kind ↔ kind.tag = tag := by
  constructor
  · intro found
    simpa using List.find?_some found
  · rintro rfl
    exact ofTag?_tag kind

end Kind

end EsqlTree
