import EsqlTree.Query
import EsqlTree.Tree.Encode

/-!
# A summary of a tree

How many commands and placeholders a tree has, and which functions of a given list
of names occur in it. A name listed twice is reported twice.
-/

namespace EsqlTree

/-- Whether a function of a name occurs. -/
structure FunctionPresence where
  /-- The name. -/
  name : String
  /-- Whether there is a function of that name. -/
  found : Bool
deriving DecidableEq

/-- A summary of a tree. -/
structure Report where
  /-- How many commands there are. -/
  commands : Nat
  /-- How many placeholders there are. -/
  params : Nat
  /-- Which of the functions asked for occur, in the order asked. -/
  functions : List FunctionPresence
deriving DecidableEq

namespace Report

/-- The summary of a tree with regard to some function names. -/
def of (root : Root) (names : List String) : Report where
  commands := (EsqlTree.commands root).length
  params := (EsqlTree.params root).length
  functions := names.map fun name => { name, found := hasFunction name root }

/-- The JSON form of a count. -/
def countToJson (count : Nat) : Json.Value :=
  .number (.ofUInt64 (UInt64.ofNat count))

/-- The JSON form of a summary. -/
def toJson (report : Report) : Json.Value :=
  .object [("commands", countToJson report.commands), ("params", countToJson report.params),
    ("functions", .array (report.functions.map fun row =>
      .object [("name", .string row.name), ("found", .boolean row.found)]))]

end Report

end EsqlTree
