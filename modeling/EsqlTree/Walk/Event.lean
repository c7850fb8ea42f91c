import EsqlTree.Tree.Basic
import EsqlTree.Walk.Action

/-!
# What a walk reports

A walk reports events. Every item is reported as an item first, and then once more
by its kind; inert items, having no kind, are reported only as items. Commands are
reported by their kind alone. A hook is a sort of event, and a visitor says what
each event does to a state and whether the walk goes on after it.
-/

namespace EsqlTree

/-- The sorts of events, one for each kind of node and one for all items. -/
inductive Hook where
  | command
  | option
  | mode
  | single
  | source
  | function
  | column
  | literal
  | list
  | timeInterval
  | inlineCast
  | unclassified
deriving DecidableEq, Repr

namespace Hook

/-- Every hook once, in the order in which hooks are listed. -/
def all : List Hook :=
  [.command, .option, .mode, .single, .source, .function, .column, .literal, .list,
    .timeInterval, .inlineCast, .unclassified]

/-- The name of a hook. -/
def name : Hook → String
  | .command => "visit_command"
  | .option => "visit_command_option"
  | .mode => "visit_command_mode"
  | .single => "visit_single_ast_item"
  | .source => "visit_source"
  | .function => "visit_function"
  | .column => "visit_column"
  | .literal => "visit_literal"
  | .list => "visit_list_literal"
  | .timeInterval => "visit_time_interval_literal"
  | .inlineCast => "visit_inline_cast"
  | .unclassified => "visit_unknown"

end Hook

/-- A hook together with the node for which it is called. -/
inductive Event where
  | command (node : Command)
  | option (node : CommandOption)
  | mode (node : CommandMode)
  | single (item : Item)
  | source (node : Source)
  | function (node : FunctionCall)
  | column (node : Column)
  | literal (node : Literal)
  | list (node : ListLiteral)
  | timeInterval (node : TimeInterval)
  | inlineCast (node : InlineCast)
  | unclassified (node : Unclassified)

namespace Event

/-- The hook of an event. -/
def hook : Event → Hook
  | .command _ => .command
  | .option _ => .option
  | .mode _ => .mode
  | .single _ => .single
  | .source _ => .source
  | .function _ => .function
  | .column _ => .column
  | .literal _ => .literal
  | .list _ => .list
  | .timeInterval _ => .timeInterval
  | .inlineCast _ => .inlineCast
  | .unclassified _ => .unclassified

/-- The header of the node of an event. -/
def header : Event → Header
  | .command node => node.toHeader
  | .option node => node.toHeader
  | .mode node => node.toHeader
  | .single item => item.header
  | .source node => node.toHeader
  | .function node => node.toHeader
  | .column node => node.toHeader
  | .literal node => node.toHeader
  | .list node => node.toHeader
  | .timeInterval node => node.toHeader
  | .inlineCast node => node.toHeader
  | .unclassified node => node.toHeader

/-- The tag of the node of an event. -/
def tag : Event → String
  | .command _ => Kind.command.tag
  | .option _ => Kind.option.tag
  | .mode _ => Kind.mode.tag
  | .single item => item.tag
  | .source _ => Kind.source.tag
  | .function _ => Kind.function.tag
  | .column _ => Kind.column.tag
  | .literal _ => Kind.literal.tag
  | .list _ => Kind.list.tag
  | .timeInterval _ => Kind.timeInterval.tag
  | .inlineCast _ => Kind.inlineCast.tag
  | .unclassified _ => Kind.unknown.tag

end Event

/-- What each event does, and whether the walk goes on after it. -/
abbrev Visitor (σ : Type) := Event → Action σ

/-- The event by which an atom's kind is reported; inert items have none. -/
def Atom.event? : Atom → Option Event
  | .mode node => some (.mode node)
  | .source node => some (.source node)
  | .column node => some (.column node)
  | .literal node => some (.literal node)
  | .timeInterval node => some (.timeInterval node)
  | .unclassified node => some (.unclassified node)
  | .inert _ => none

end EsqlTree
