import EsqlTree.Cli.Invocation
import EsqlTree.Json.Writer
import EsqlTree.Report
import EsqlTree.Trace

/-!
# Answers

What is printed for a question about a tree, and whether what was looked for is there.
As text each row of a result is a line of its own; as JSON the result is laid out over
lines. A function that is found is printed as JSON in either format.
-/

namespace EsqlTree

/-- The line that shows a command. -/
def Command.line (command : Command) : String :=
  command.name ++ " " ++ String.ofList (Text.decimal command.location.min.toNat) ++ ":"
    ++ String.ofList (Text.decimal command.location.max.toNat)

/-- The JSON form of a row for a command, with its keys in order. The arguments are left
out. -/
def Command.row (command : Command) : Json.Value :=
  .object [
    ("location", .object [("max", .number (.ofUInt32 command.location.max)),
      ("min", .number (.ofUInt32 command.location.min))]),
    ("name", .string command.name),
    ("text", .string command.text)]

/-- The line that shows whether a function occurs. -/
def FunctionPresence.line (row : FunctionPresence) : String :=
  "function " ++ row.name ++ ": " ++ if row.found then "found" else "missing"

/-- The lines that show a summary. -/
def Report.lines (report : Report) : List String :=
  ("commands: " ++ String.ofList (Text.decimal report.commands))
    :: ("params: " ++ String.ofList (Text.decimal report.params))
    :: report.functions.map FunctionPresence.line

namespace Cli

/-- What a run prints, and whether it found what it was asked to look for. -/
structure Answer where
  /-- The text printed. -/
  output : String
  /-- False only if a function that was looked for is not there. -/
  found : Bool := true
deriving DecidableEq

/-- The text of lines, each with its end. -/
def textLines (lines : List String) : String :=
  String.join (lines.map fun line => line ++ "\n")

/-- No lines make no text. -/
@[simp] theorem textLines_nil : textLines [] = "" := by
  simp only [textLines, List.map_nil, String.join_nil]

/-- The first line ends where the text of the others begins. -/
@[simp] theorem textLines_cons (line : String) (others : List String) :
    textLines (line :: others) = line ++ "\n" ++ textLines others := by
  simp only [textLines, List.map_cons, String.join_cons]

/-- Lines may be written in two parts. -/
theorem textLines_append (front back : List String) :
    textLines (front ++ back) = textLines front ++ textLines back := by
  simp only [textLines, List.map_append, String.join_append]

/-- The text of a value laid out over lines, with the end of the last one. -/
def jsonLines (value : Json.Value) : String := Json.pretty value ++ "\n"

/-- The rows of a result in a format. -/
def rows {α : Type} (format : OutputFormat) (line : α → String) (row : α → Json.Value)
    (results : List α) : String :=
  match format with
  | .text => textLines (results.map line)
  | .json => jsonLines (.array (results.map row))

/-- A summary in a format. -/
def summary (format : OutputFormat) (report : Report) : String :=
  match format with
  | .text => textLines report.lines
  | .json => jsonLines report.toJson

/-- Whether something is there, in a format. -/
def presence (format : OutputFormat) (found : Bool) : String :=
  match format with
  | .text => textLines [if found then "true" else "false"]
  | .json => jsonLines (.object [("found", .boolean found)])

/-- The answer to a question about a tree. A report looks for the functions named. -/
def Request.answer (root : Root) (functions : List String) (format : OutputFormat) :
    Request → Answer
  | .commands => { output := rows format Command.line Command.row (EsqlTree.commands root) }
  | .params =>
    { output := rows format (fun node => node.value.display) Literal.toJson
        (EsqlTree.params root) }
  | .findFunction name =>
    match EsqlTree.findFunction (fun node => node.name == name) root with
    | some node => { output := jsonLines node.toJson }
    | none => { output := "", found := false }
  | .hasFunction name =>
    let found := EsqlTree.hasFunction name root
    { output := presence format found, found }
  | .trace => { output := rows format Event.display Event.toJson (EsqlTree.trace root) }
  | .report => { output := summary format (Report.of root functions) }

end Cli

end EsqlTree
