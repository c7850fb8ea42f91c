import EsqlTree.Cli.Answer
import EsqlTree.Proofs.Json.Layout
import EsqlTree.Proofs.Load.TextReload
import EsqlTree.Proofs.Text.Numeral

/-!
# What is printed

A result is printed as lines or as JSON. Here both are described apart from the functions that
print: a line as a text of names, tags and numbers as they are usually shown, and the JSON text by
the value that is read back from it.

Rows of commands and of events, and summaries, hold no numbers but integers and nest few
containers, so their JSON text is always read back as their value. The value of a placeholder may
be a decimal. Its row is laid out like any other, but reading rounds decimals in its own way, so
only rows without decimals are said to be read back.
-/

namespace EsqlTree.Cli

/-- The text of a result: in the one format lines in their order, each with its end, and in the
other a value that is laid out over lines, with the end of the last one. -/
def LaidOut (format : OutputFormat) (lines : List String) (value : Json.Value) (output : String) :
    Prop :=
  match format with
  | .text => output = String.join (lines.map fun line => line ++ "\n")
  | .json => output = Json.pretty value ++ "\n"

/-- A result is printed: its text is laid out, and if it is a JSON text it is read as the value of
the result. Reading makes sure that the layout loses nothing and invents nothing. -/
structure Prints (format : OutputFormat) (lines : List String) (value : Json.Value)
    (output : String) : Prop where
  /-- The text is that of the lines or of the value. -/
  laidOut : LaidOut format lines value output
  /-- A JSON text is read as the value. -/
  read : format = .json → Json.read output = .ok value

/-- A value that is laid out is printed if its text can be read back: all its numbers are integers,
and it nests no more containers than may be open. -/
theorem LaidOut.prints {format : OutputFormat} {lines : List String} {value : Json.Value}
    {output : String} (laidOut : LaidOut format lines value output) (floatless : value.Floatless)
    (enough : value.depth ≤ Json.nestingLimit) : Prints format lines value output := by
  refine ⟨laidOut, ?_⟩
  intro json
  subst json
  obtain rfl : output = Json.pretty value ++ "\n" := laidOut
  exact Json.read_pretty floatless enough

section

variable {α : Type} (format : OutputFormat) (line : α → String) (row : α → Json.Value)

/-- The rows of a result are laid out in the order of the result, a line or an element for each. -/
theorem laidOut_rows (results : List α) :
    LaidOut format (results.map line) (.array (results.map row))
      (rows format line row results) := by
  cases format with
  | text => rfl
  | json => rfl

variable {line row}

/-- The rows of a result are printed if each row by itself could be read back, one container fewer
being allowed for the array around them. -/
theorem prints_rows {results : List α}
    (flat : ∀ result ∈ results, (row result).Floatless ∧ (row result).depth < Json.nestingLimit) :
    Prints format (results.map line) (.array (results.map row)) (rows format line row results) := by
  refine (laidOut_rows format line row results).prints ?_ ?_
  · apply (Json.elementsFloatless_iff _).mpr
    exact List.forall_mem_map.mpr fun result among => (flat result among).1
  · apply Nat.succ_le_of_lt
    apply Nat.lt_of_le_pred (by decide)
    apply (Json.depthOfElements_le_iff _ _).mpr
    exact List.forall_mem_map.mpr fun result among => Nat.le_pred_of_lt (flat result among).2

end

/-- The line of a command: its name, and behind a blank the ends of its location. -/
def commandLine (header : Header) : String :=
  header.name ++ " " ++ toString header.location.min ++ ":" ++ toString header.location.max

/-- The value of a command: its location, its name and its source text, without its arguments. -/
def commandValue (header : Header) : Json.Value :=
  .object [
    ("location", .object [("max", .number (.ofUInt32 header.location.max)),
      ("min", .number (.ofUInt32 header.location.min))]),
    ("name", .string header.name),
    ("text", .string header.text)]

/-- The line of an event: a mark and the tag where the hook is the one for all items, and otherwise
the tag and the name. -/
def eventLine (event : Event) : String :=
  if event.hook = .single then "single " ++ event.tag else event.tag ++ " " ++ event.header.name

/-- The value of an event: the name of its hook, and the tag, the name and the location of its
node. -/
def eventValue (event : Event) : Json.Value :=
  .object [("hook", .string event.hook.name), ("type", .string event.tag),
    ("name", .string event.header.name),
    ("location", .object [("min", .number (.ofUInt32 event.header.location.min)),
      ("max", .number (.ofUInt32 event.header.location.max))])]

/-- The lines of a summary: a count of commands, a count of placeholders, and for each function what
was asked for and whether it is there. -/
def summaryLines (report : Report) : List String :=
  ["commands: " ++ toString report.commands, "params: " ++ toString report.params] ++
    report.functions.map fun row =>
      "function " ++ row.name ++ ": " ++ if row.found then "found" else "missing"

/-- The value of a summary: both counts, as integers of 64 bits, and a row for each function. -/
def summaryValue (report : Report) : Json.Value :=
  .object [
    ("commands", .number (.ofUInt64 (.ofNat report.commands))),
    ("params", .number (.ofUInt64 (.ofNat report.params))),
    ("functions", .array (report.functions.map fun row =>
      .object [("name", .string row.name), ("found", .boolean row.found)]))]

/-- Lists of commands are printed, and what is printed of a command depends on its header alone.
The location is the only container in a row, and its ends are the only numbers. -/
theorem prints_commands (format : OutputFormat) (commands : List Command) :
    Prints format (commands.map fun node => commandLine node.toHeader)
      (.array (commands.map fun node => commandValue node.toHeader))
      (rows format Command.line Command.row commands) := by
  have lines : (fun node : Command => commandLine node.toHeader) = Command.line := by
    funext node
    rw [Command.line, Text.ofList_decimal, Text.ofList_decimal]
    rfl
  have values : (fun node : Command => commandValue node.toHeader) = Command.row := rfl
  rw [lines, values]
  apply prints_rows
  intro node _
  have depth : node.row.depth = 2 := rfl
  refine ⟨⟨⟨trivial, trivial, trivial⟩, trivial, trivial, trivial⟩, ?_⟩
  rw [depth]
  decide

/-- Lists of events are printed, whatever walk they are from. The location is the only container in
a row, and its ends are the only numbers. -/
theorem prints_events (format : OutputFormat) (events : List Event) :
    Prints format (events.map eventLine) (.array (events.map eventValue))
      (rows format Event.display Event.toJson events) := by
  have lines : eventLine = Event.display := by
    funext event
    cases event <;> rfl
  have values : eventValue = Event.toJson := rfl
  rw [lines, values]
  apply prints_rows
  intro event _
  have depth : event.toJson.depth = 2 := rfl
  refine ⟨⟨trivial, trivial, trivial, ⟨trivial, trivial, trivial⟩, trivial⟩, ?_⟩
  rw [depth]
  decide

/-- Lists of literals are printed if none of the values is a decimal: the row of a literal then has
no number but integers. -/
theorem prints_literals (format : OutputFormat) {literals : List Literal}
    (whole : ∀ node ∈ literals, (Atom.literal node).decimal? = none) :
    Prints format (literals.map fun node => node.value.display)
      (.array (literals.map Literal.toJson))
      (rows format (fun node => node.value.display) Literal.toJson literals) := by
  apply prints_rows
  intro node among
  have depth : node.toJson.depth = 2 := Atom.depth_toJson (.literal node)
  refine ⟨Atom.floatless_toJson (whole node among), ?_⟩
  rw [depth]
  decide

/-- Summaries are printed. The functions are the innermost containers, inside an array inside the
summary, and the counts are its only numbers. -/
theorem prints_summary (format : OutputFormat) (report : Report) :
    Prints format (summaryLines report) (summaryValue report) (summary format report) := by
  have lines : summaryLines report = report.lines := by
    rw [summaryLines, Report.lines, Text.ofList_decimal, Text.ofList_decimal]
    rfl
  have laidOut : LaidOut format (summaryLines report) (summaryValue report)
      (summary format report) := by
    rw [lines]
    cases format with
    | text => rfl
    | json => rfl
  refine laidOut.prints ?_ ?_
  · refine ⟨trivial, trivial, ?_, trivial⟩
    apply (Json.elementsFloatless_iff _).mpr
    exact List.forall_mem_map.mpr fun row _ => ⟨trivial, trivial, trivial⟩
  · have rows : Json.depthOfElements (report.functions.map fun row =>
        .object [("name", .string row.name), ("found", .boolean row.found)]) ≤ 1 := by
      apply (Json.depthOfElements_le_iff _ _).mpr
      exact List.forall_mem_map.mpr fun row _ => Nat.le_refl 1
    simp only [summaryValue, Json.Value.depth, Json.depthOfMembers, Json.nestingLimit]
    omega

end EsqlTree.Cli
