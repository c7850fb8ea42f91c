import EsqlTree.Proofs.Cli.Printing
import EsqlTree.Proofs.Cli.Status
import EsqlTree.Proofs.Config.Settings

/-!
# Questions about one tree

Every question walks the tree by itself, and a report asks several. All of them agree with the
trace: what is listed is what the trace shows of the same hook, a function is found exactly if
the trace has its event, and a report counts what the lists hold.
-/

namespace EsqlTree

/-- What is picked from events of one sort, with the event made of it again, are the events of
that sort. -/
theorem map_filterMap_eq_filter {α : Type} {pick? : Event → Option α} {make : α → Event}
    {keep : Event → Bool} (picks : ∀ event, (pick? event).map make = Option.guard keep event)
    (events : List Event) : (events.filterMap pick?).map make = events.filter keep := by
  rw [List.map_filterMap, ← List.filterMap_eq_filter]
  congr 1
  funext event
  exact picks event

/-- No two hooks have one name, so the events of a hook are those that a trace shows by its name. -/
theorem Hook.name_eq_name_iff (first second : Hook) :
    first.name = second.name ↔ first = second := by
  have listed (hook : Hook) : hook ∈ all := by cases hook <;> decide
  have apart : ∀ first ∈ all, ∀ second ∈ all, first.name = second.name → first = second := by
    decide
  constructor
  · exact apart first (listed first) second (listed second)
  · exact congrArg name

/-- The events that a trace shows by the name of a hook. -/
def Root.shownBy (hook : String) (root : Root) : List Event :=
  (trace root).filter fun event => event.hook.name = hook

/-- By the name of a hook a trace shows the events of this hook, and no others. Names are compared
instead of hooks, because a trace has names only. -/
theorem Root.shownBy_name (hook : Hook) (root : Root) :
    root.shownBy hook.name = root.events.filter (·.hook = hook) := by
  rw [shownBy, trace_eq_events]
  simp only [Hook.name_eq_name_iff]

/-- The commands are those of the command events of the trace, in their order. The list and the
trace are two walks of one tree, and both are read off its events. -/
theorem map_command_commands (root : Root) :
    (commands root).map Event.command = root.shownBy "visit_command" := by
  have picked : (root.events.filterMap Event.command?).map Event.command =
      root.events.filter (·.hook = .command) := by
    apply map_filterMap_eq_filter
    intro event
    cases event <;> rfl
  rw [commands_eq_filterMap, picked]
  exact (root.shownBy_name .command).symm

/-- The placeholders stand among the literals that the trace shows, and in their order. They are the
literals of a type of their own, so what is left out are the others. -/
theorem sublist_shownBy_literal (root : Root) :
    ((root.events.filterMap Event.param?).map Event.literal).Sublist
      (root.shownBy "visit_literal") := by
  have literals : (root.events.filterMap Event.param?).map Event.literal =
      (root.events.filter (·.hook = .literal)).filter fun event => event.param?.isSome := by
    rw [List.filter_filter]
    apply map_filterMap_eq_filter
    intro event
    cases event with
    | literal node =>
      cases placeholder : node.isParam <;>
        simp [Event.param?, Event.hook, Option.guard, placeholder]
    | _ => rfl
  have shown : root.shownBy "visit_literal" = root.events.filter (·.hook = .literal) :=
    root.shownBy_name .literal
  rw [literals, shown]
  exact List.filter_sublist

/-- A tree has a function of a name exactly if the trace shows one of this name. The search may end
before it has seen the whole tree, and still it misses nothing that a full walk reports. -/
theorem hasFunction_eq_true_iff_shownBy (name : String) (root : Root) :
    hasFunction name root = true ↔
      ∃ event ∈ root.shownBy "visit_function", event.header.name = name := by
  have shown : root.shownBy "visit_function" = root.events.filter (·.hook = .function) :=
    root.shownBy_name .function
  simp only [hasFunction_eq_true_iff, shown, List.mem_filter, decide_eq_true_eq]
  constructor
  · rintro ⟨node, reached, named⟩
    exact ⟨.function node, ⟨(Root.function_mem_events_iff node root).mpr reached, rfl⟩, named⟩
  · rintro ⟨event, ⟨among, hook⟩, named⟩
    cases event with
    | function node => exact ⟨node, (Root.function_mem_events_iff node root).mp among, named⟩
    | _ => contradiction

namespace Report

/-- A report has one row for every name it is asked for, in the order asked. -/
theorem map_name_functions (root : Root) (names : List String) :
    (of root names).functions.map FunctionPresence.name = names := by
  rw [of, List.map_map]
  exact List.map_id names

/-- A report that is asked for a name tells in every row of that name whether there is a
function of it. The name may be asked for more than once, and then all its rows agree. -/
theorem rows_found_iff {name : String} {names : List String} (asked : name ∈ names) (root : Root) :
    (∀ row ∈ (of root names).functions, row.name = name → row.found = true) ↔
      hasFunction name root = true := by
  simp only [of, List.mem_map, forall_exists_index, and_imp, forall_apply_eq_imp_iff₂]
  constructor
  · intro found
    exact found name asked rfl
  · rintro there _ _ rfl
    exact there

/-- What a report tells can be told from the trace: it counts the commands that the trace shows and
the placeholders among its literals, and for each name it looks through the functions. -/
theorem of_eq_shownBy (root : Root) (names : List String) :
    of root names = {
      commands := (root.shownBy "visit_command").length
      params := ((trace root).filterMap Event.param?).length
      functions := names.map fun name =>
        ⟨name, (root.shownBy "visit_function").any fun event => event.header.name = name⟩ } := by
  have found (name : String) : hasFunction name root =
      (root.shownBy "visit_function").any fun event => event.header.name = name := by
    rw [Bool.eq_iff_iff, hasFunction_eq_true_iff_shownBy, List.any_eq_true]
    simp only [decide_eq_true_eq]
  rw [of, ← map_command_commands, List.length_map, trace_eq_events, ← params_eq_filterMap]
  simp only [found]

end Report

namespace Cli

/-- A run ends with zero exactly if its answer is not negative. Answers that cannot be negative end
it with zero always. -/
theorem Outcome.exitCode_ofAnswer_eq_zero_iff (answer : Answer) :
    (ofAnswer (.ok answer)).status.exitCode = 0 ↔ answer.found = true := by
  cases found : answer.found <;> simp [ofAnswer, found, Status.exitCode]

namespace Invocation

variable {invocation : Invocation} {surroundings : Surroundings} {settings : Settings} {root : Root}

/-- The same run with another question. -/
def asking (invocation : Invocation) (request : Request) : Invocation := { invocation with request }

/-- What a run reads does not depend on its question, so runs that differ in the question alone
answer from one tree and with one format. -/
theorem Reads.asking (reads : invocation.Reads surroundings settings root) (request : Request) :
    (invocation.asking request).Reads surroundings settings root :=
  ⟨reads.configured, reads.loaded⟩

/-- Questions about one tree are answered alike, whatever the settings, and this shows in what is
printed. The trace has a row for each event. The list of commands has the names and the locations of
the events that the trace shows of commands, in their order; the list of placeholders has the
literals among its events that are placeholders, and these stand in the order of its literals. A
report counts both, and has a row for every name that the settings have, in their order. A function
of a name is found by either search exactly if the trace shows a function of it, and exactly if
every row of that name in a report tells that it is there.

Proof: each answer is a walk of its own, and each is read off the events of the tree. What is
printed of it follows from the rows, which depend on the events alone. -/
theorem Reads.answers_agree (reads : invocation.Reads surroundings settings root) (name : String) :
    let asked := fun request => (invocation.asking request).outcome surroundings
    let found := (asked (.hasFunction name)).status.exitCode = 0
    let format := invocation.formatWith settings
    let placeholders := (trace root).filterMap Event.param?
    let report : Report := {
      commands := (root.shownBy "visit_command").length
      params := placeholders.length
      functions := settings.functions.map fun name =>
        ⟨name, (root.shownBy "visit_function").any fun event => event.header.name = name⟩ }
    (∀ request ∈ [.trace, .commands, .params, .report], (asked request).status = .success) ∧
    Prints format ((trace root).map eventLine) (.array ((trace root).map eventValue))
      (asked .trace).output ∧
    Prints format ((root.shownBy "visit_command").map fun event => commandLine event.header)
      (.array ((root.shownBy "visit_command").map fun event => commandValue event.header))
      (asked .commands).output ∧
    LaidOut format (placeholders.map fun node => node.value.display)
      (.array (placeholders.map Literal.toJson)) (asked .params).output ∧
    ((∀ node ∈ placeholders, (Atom.literal node).decimal? = none) →
      Prints format (placeholders.map fun node => node.value.display)
        (.array (placeholders.map Literal.toJson)) (asked .params).output) ∧
    (placeholders.map Event.literal).Sublist (root.shownBy "visit_literal") ∧
    Prints format (summaryLines report) (summaryValue report) (asked .report).output ∧
    report.functions.map FunctionPresence.name = settings.functions ∧
    (found ↔ (asked (.findFunction name)).status.exitCode = 0) ∧
    (found ↔ ∃ event ∈ root.shownBy "visit_function", event.header.name = name) ∧
    (name ∈ settings.functions →
      (found ↔ ∀ row ∈ report.functions, row.name = name → row.found = true)) := by
  intro asked found format placeholders report
  have answered (request : Request) :
      asked request = .ofAnswer (.ok (request.answer root settings.functions format)) :=
    (reads.asking request).outcome_eq
  have found_iff : found ↔ EsqlTree.hasFunction name root = true := by
    simp only [found, answered, Outcome.exitCode_ofAnswer_eq_zero_iff, Request.answer]
  have listed : EsqlTree.params root = placeholders := by
    rw [params_eq_filterMap, ← trace_eq_events]
  have reported : Report.of root settings.functions = report :=
    Report.of_eq_shownBy root settings.functions
  refine ⟨?_, ?_, ?_, ?_, ?_, ?_, ?_, ?_, ?_, ?_, ?_⟩
  · simp only [answered, List.forall_mem_cons, List.not_mem_nil, false_implies, implies_true,
      and_true]
    exact ⟨rfl, rfl, rfl, rfl⟩
  · rw [answered]
    exact prints_events format (trace root)
  · rw [answered, ← map_command_commands, List.map_map, List.map_map]
    exact prints_commands format (EsqlTree.commands root)
  · rw [answered, ← listed]
    exact laidOut_rows format _ _ (EsqlTree.params root)
  · intro whole
    rw [← listed] at whole ⊢
    rw [answered]
    exact prints_literals format whole
  · rw [← listed, params_eq_filterMap]
    exact sublist_shownBy_literal root
  · rw [answered, ← reported]
    exact prints_summary format (Report.of root settings.functions)
  · rw [← reported]
    exact Report.map_name_functions root settings.functions
  · rw [found_iff, answered, Outcome.exitCode_ofAnswer_eq_zero_iff,
      Request.found_answer_findFunction]
  · rw [found_iff, hasFunction_eq_true_iff_shownBy]
  · intro asked
    rw [found_iff, ← reported, Report.rows_found_iff asked]

/-- A command whose arguments are a function and a column. The function has a placeholder and
another literal. -/
def averageValue : Json.Value :=
  .array [.object [("type", .string "command"), ("name", .string "where"),
    ("location", .object [("min", .number (.ofUInt32 0)), ("max", .number (.ofUInt32 19))]),
    ("args", .array [
      .object [("type", .string "function"), ("name", .string "avg"), ("args", .array [
        .object [("type", .string "literal"), ("literalType", .string "param"),
          ("name", .string "?1")],
        .object [("type", .string "literal"), ("literalType", .string "integer"),
          ("name", .string "7"), ("value", .number (.ofUInt32 7))]])],
      .object [("type", .string "column"), ("name", .string "b")]])]]

/-- The text of this command. -/
def averageSource : String := Json.compact averageValue

/-- The placeholder of the function. -/
def averagePlaceholder : Literal :=
  { Header.named "?1" with
    literalType := .param, value := .string "?1", paramKind := some .positional }

/-- The function. -/
def averageFunction : FunctionCall :=
  { Header.named "avg" with
    args := [.single (.atom (.literal averagePlaceholder)),
      .single (.atom (.literal
        { Header.named "7" with literalType := .integer, value := .integer 7 }))] }

/-- The tree of the command. -/
def averageTree : Root :=
  some (.seq [.command
    { name := "where"
      location := ⟨0, 19⟩
      args := [.single (.function averageFunction), .single (.atom (.column (.named "b")))] }])

/-- Settings that name this function twice, and another one between. -/
def averageSettings : Settings where
  functions := ["avg", "now", "avg"]

/-- The value of a configuration with these settings. -/
def averageGiven : Json.Value :=
  .object [("functions", .array [.string "avg", .string "now", .string "avg"])]

/-- The text of this configuration. -/
def averageConfiguration : String := Json.compact averageGiven

/-- A run that finds this configuration, and the tree in the standard input. -/
def averageSurroundings : Surroundings where
  isFile := fun path => path == "./.esqlwalk.jsonc"
  bytesAt := fun path =>
    if path = "./.esqlwalk.jsonc" then .ok averageConfiguration.toUTF8 else .error .notFound
  input := .ok averageSource.toUTF8

/-- The run that asks for a report on the standard input. -/
def averageReport : Invocation where
  request := .report
  file := "-"

/-- The run has these settings and this tree. -/
theorem averageReport_reads :
    averageReport.Reads averageSurroundings averageSettings averageTree := by
  have selected : averageSurroundings.Selects none "./.esqlwalk.jsonc" := .first rfl
  have plain : averageGiven.Floatless := by
    simp [averageGiven, Json.Value.Floatless, Json.ElementsFloatless, Json.MembersFloatless]
  have valid : Settings.read averageConfiguration = .ok averageSettings :=
    (Settings.read_compact_eq_ok_iff plain _).mpr (.members (by simp) rfl rfl)
  have floatless : averageValue.Floatless := by
    simp [averageValue, Json.Value.Floatless, Json.ElementsFloatless, Json.MembersFloatless,
      Json.Number.ofUInt32]
  have read : Json.read averageSource = .ok averageValue :=
    (Json.read_compact floatless).1 (by decide)
  have zero : Json.Number.ofUInt32 0 = .integer ⟨0, by decide, by decide⟩ := rfl
  have seven : Json.Number.ofUInt32 7 = .integer ⟨7, by decide, by decide⟩ := rfl
  have nineteen : Json.Number.ofUInt32 19 = .integer ⟨19, by decide, by decide⟩ := rfl
  have tree : Load.root averageValue = .ok averageTree := by
    rw [averageValue, zero, seven, nineteen]
    cbv
  have loaded : load averageSource = .ok averageTree :=
    load_eq_ok_iff.mpr ⟨averageValue, read, tree⟩
  have configured : averageSurroundings.settings none = .ok averageSettings := by
    rw [selected.settings_eq, Surroundings.settingsAt_eq_ok_iff]
    exact ⟨averageConfiguration, rfl, valid⟩
  exact ⟨configured, averageSource, rfl, loaded⟩

/-- The same run with the other format. -/
def averageJson : Invocation := { averageReport with format := some .json }

/-- The function is found in every way in which it can be asked for, and what is printed agrees, be
it as text or as JSON. The trace has two lines for each item and one for the command. -/
theorem answers_agree_average :
    let asked := fun request => (averageReport.asking request).outcome averageSurroundings
    let askedJson := fun request => (averageJson.asking request).outcome averageSurroundings
    averageReport.Reads averageSurroundings averageSettings averageTree ∧
      averageJson.Reads averageSurroundings averageSettings averageTree ∧
      (asked (.hasFunction "avg")).status.exitCode = 0 ∧
      (asked (.findFunction "avg")).status.exitCode = 0 ∧
      (∃ event ∈ averageTree.shownBy "visit_function", event.header.name = "avg") ∧
      (asked .trace).output = "command where\nsingle function\nfunction avg\nsingle literal\n" ++
        "literal ?1\nsingle literal\nliteral 7\nsingle column\ncolumn b\n" ∧
      (asked .commands).output = "where 0:19\n" ∧
      (asked .params).output = "?1\n" ∧
      (asked .report).output = "commands: 1\nparams: 1\n" ++
        "function avg: found\nfunction now: missing\nfunction avg: found\n" ∧
      Json.read (askedJson .commands).output = .ok (.array [.object [
        ("location", .object [("max", .number (.ofUInt32 19)), ("min", .number (.ofUInt32 0))]),
        ("name", .string "where"), ("text", .string "where")]]) ∧
      Json.read (askedJson .params).output = .ok (.array [averagePlaceholder.toJson]) ∧
      Json.read (askedJson .report).output = .ok (.object [
        ("commands", .number (.ofUInt64 1)), ("params", .number (.ofUInt64 1)),
        ("functions", .array [
          .object [("name", .string "avg"), ("found", .boolean true)],
          .object [("name", .string "now"), ("found", .boolean false)],
          .object [("name", .string "avg"), ("found", .boolean true)]])]) := by
  have readsJson : averageJson.Reads averageSurroundings averageSettings averageTree :=
    ⟨averageReport_reads.configured, averageReport_reads.loaded⟩
  obtain ⟨_, traced, listed, placed, _, _, summed, _, finds, shown, reported⟩ :=
    averageReport_reads.answers_agree "avg"
  obtain ⟨_, _, listedJson, _, placedJson, _, summedJson, _⟩ := readsJson.answers_agree "avg"
  have found := (reported (by decide)).mpr (by decide)
  refine ⟨averageReport_reads, readsJson, found, finds.mp found, shown.mp found, ?_, ?_, ?_, ?_, ?_,
    ?_, ?_⟩
  · exact traced.laidOut.trans (by decide)
  · exact listed.laidOut.trans (by decide)
  · exact placed.trans (by decide)
  · exact summed.laidOut.trans (by decide)
  · exact listedJson.read rfl
  · exact (placedJson (by decide)).read rfl
  · exact summedJson.read rfl

end Invocation

end Cli

end EsqlTree
