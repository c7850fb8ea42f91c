import EsqlTree.Tree.Encode
import EsqlTree.Walk.Walker

/-!
# The trace of a walk

A trace lists every event of a full walk in order. An event of the hook for all items
is shown by the tag of its item, any other by its tag and the name of its node.
-/

namespace EsqlTree

/-- Notes every event. -/
def recorder : Visitor (Array Event) := fun event => .update fun events => events.push event

/-- Every event of a walk. -/
def trace (root : Root) : List Event := (walkRoot recorder root #[]).1.toList

namespace Event

/-- The line that shows an event. -/
def display (event : Event) : String :=
  match event with
  | .single item => "single " ++ item.tag
  | other => other.tag ++ " " ++ other.header.name

/-- The JSON form of an event. -/
def toJson (event : Event) : Json.Value :=
  .object [("hook", .string event.hook.name), ("type", .string event.tag),
    ("name", .string event.header.name), ("location", event.header.location.toJson)]

end Event

end EsqlTree
