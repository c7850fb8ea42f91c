import EsqlTree.Proofs.Cli.Agreement
import EsqlTree.Proofs.Load.Subtree

/-!
# A function that is found is a source

The search for a function prints the function as a source of its own. A run on that source finds
the function again and prints it alike; it lists the placeholders that the function reaches, and
traces the events that the function has in the trace of the first tree.
-/

namespace EsqlTree

/-- A function as a tree of its own. -/
def FunctionCall.toRoot (node : FunctionCall) : Root := some (.single (.function node))

/-- The events of such a tree are those of the function as an item, and the first of them tells of
the item itself. -/
theorem FunctionCall.trace_toRoot (node : FunctionCall) :
    trace node.toRoot = (Item.function node).events := trace_eq_events node.toRoot

/-- Such a tree begins with its function, so a search that accepts this function finds it before any
that is inside. -/
theorem FunctionCall.findFunction_toRoot {accepts : FunctionCall → Bool} {node : FunctionCall}
    (accepted : accepts node = true) : findFunction accepts node.toRoot = some node := by
  obtain ⟨header, form, args⟩ := node
  rw [findFunction_eq_find?]
  exact List.find?_cons_of_pos accepted

/-- The placeholders of such a tree are those of the function's events, in their order and as often
as they are there. -/
theorem FunctionCall.params_toRoot (node : FunctionCall) :
    params node.toRoot = (Item.function node).events.filterMap Event.param? :=
  params_eq_filterMap node.toRoot

/-- The placeholders among the events of an item are those that the item reaches. An operand of a
cast is not reached, and no event tells of it. -/
theorem Item.mem_filterMap_param?_iff (item : Item) (literal : Literal) :
    literal ∈ item.events.filterMap Event.param? ↔
      literal.isParam = true ∧ item.Reaches (.atom (.literal literal)) := by
  simp only [List.mem_filterMap, Event.param?_eq_some_iff]
  constructor
  · rintro ⟨event, shown, placeholder, rfl⟩
    exact ⟨placeholder, (Item.literal_mem_events_iff literal item).mp shown⟩
  · rintro ⟨placeholder, reached⟩
    exact ⟨_, (Item.literal_mem_events_iff literal item).mpr reached, placeholder, rfl⟩

namespace Cli

/-- The answer to a search that finds a function is the function, as JSON on lines of its own.
Neither the format nor the functions of the settings have a part in it. -/
theorem Request.answer_findFunction {root : Root} {name : String} {node : FunctionCall}
    (found : EsqlTree.findFunction (fun node => node.name == name) root = some node)
    (functions : List String) (format : OutputFormat) :
    answer root functions format (.findFunction name) = { output := jsonLines node.toJson } := by
  rw [answer, found]

/-- The same surroundings with another text in the standard input. -/
def Surroundings.withInput (surroundings : Surroundings) (text : String) : Surroundings :=
  { surroundings with input := .ok text.toUTF8 }

namespace Invocation

variable {invocation : Invocation} {surroundings : Surroundings} {settings : Settings}

/-- A run that has a function for its tree finds it and prints it. It prints the placeholders of the
function and traces its events; where the function holds no decimal, its placeholders hold none, so
this is read back as well. -/
theorem Reads.answers_toRoot {node : FunctionCall}
    (reads : invocation.Reads surroundings settings node.toRoot)
    (whole : NoDecimal node.atoms) :
    let asked := fun request => (invocation.asking request).outcome surroundings
    let format := invocation.formatWith settings
    let block := (Item.function node).events
    let placeholders := block.filterMap Event.param?
    asked (.findFunction node.name) = ⟨.success, jsonLines node.toJson⟩ ∧
      (asked (.hasFunction node.name)).status.exitCode = 0 ∧
      (asked .params).status = .success ∧
      Prints format (placeholders.map fun literal => literal.value.display)
        (.array (placeholders.map Literal.toJson)) (asked .params).output ∧
      (asked .trace).status = .success ∧
      Prints format (block.map eventLine) (.array (block.map eventValue))
        (asked .trace).output := by
  intro asked format block placeholders
  have answered (request : Request) :
      asked request = .ofAnswer (.ok (request.answer node.toRoot settings.functions format)) :=
    (reads.asking request).outcome_eq
  have found : findFunction (fun other => other.name == node.name) node.toRoot = some node :=
    FunctionCall.findFunction_toRoot (by simp)
  refine ⟨?_, ?_, ?_, ?_, ?_, ?_⟩
  · rw [answered, Request.answer_findFunction found]
    rfl
  · rw [answered, Outcome.exitCode_ofAnswer_eq_zero_iff, Request.answer, hasFunction, found]
    rfl
  · rw [answered]
    rfl
  · have integral : ∀ literal ∈ placeholders, (Atom.literal literal).decimal? = none := by
      intro literal among
      exact FunctionCall.decimal?_eq_none whole
        ((Item.mem_filterMap_param?_iff (.function node) literal).mp among).2
    rw [answered, Request.answer, FunctionCall.params_toRoot]
    exact prints_literals format integral
  · rw [answered]
    rfl
  · rw [answered, Request.answer, FunctionCall.trace_toRoot]
    exact prints_events format block

/-- A run that looks for a function and ends with zero has found one in its tree. There is then a
tree to be asked other questions about, and settings to answer them with. -/
theorem exists_found_of_exitCode {name : String} (asked : invocation.request = .findFunction name)
    (success : (invocation.outcome surroundings).status.exitCode = 0) :
    ∃ settings root node, invocation.Reads surroundings settings root ∧
      findFunction (fun node => node.name == name) root = some node ∧
      (invocation.outcome surroundings).output = jsonLines node.toJson := by
  rcases invocation.fails_or_reads surroundings with fails | ⟨settings, root, reads⟩
  · rw [outcome_of_fails fails] at success
    contradiction
  · have outcome := reads.outcome_eq
    rw [asked] at outcome
    rw [outcome, Outcome.exitCode_ofAnswer_eq_zero_iff, Request.found_answer_findFunction,
      hasFunction] at success
    obtain ⟨node, found⟩ := Option.isSome_iff_exists.mp success
    refine ⟨settings, root, node, reads, found, ?_⟩
    rw [outcome, Request.answer_findFunction found]
    rfl

/-- What a run prints for a function that it finds is a source of which this function is the
tree, if it holds no decimal and nests no more containers than may be open. Looking for the
same name there prints the same text, and finds the name. The placeholders printed are those
that the function reaches. The trace of the first run is printed in three parts, and what is printed
of the function is the part in the middle: the same lines, or the same elements of the array.

Proof: the events of the function stand together among those of the first tree, and they are all
the events of the tree that is loaded again. What is printed of an event depends on it alone. -/
theorem found_function_read_again {name : String}
    (asked : invocation.request = .findFunction name)
    (success : (invocation.outcome surroundings).status.exitCode = 0) :
    ∃ settings root node before after,
      let printed := (invocation.outcome surroundings).output
      let traced := (invocation.asking .trace).outcome surroundings
      let block := (Item.function node).events
      let placeholders := block.filterMap Event.param?
      surroundings.settings invocation.config = .ok settings ∧
      surroundings.HoldsTree invocation.file root ∧
      printed = Json.pretty node.toJson ++ "\n" ∧ node.name = name ∧
      trace root = before ++ block ++ after ∧
      traced.status = .success ∧
      Prints (invocation.formatWith settings)
        (before.map eventLine ++ block.map eventLine ++ after.map eventLine)
        (.array (before.map eventValue ++ block.map eventValue ++ after.map eventValue))
        traced.output ∧
      (∀ other, .function other ∈ before → other.name ≠ name) ∧
      (∀ literal, literal ∈ placeholders ↔
        literal.isParam = true ∧ (Item.function node).Reaches (.atom (.literal literal))) ∧
      (NoDecimal node.atoms → node.toJson.depth ≤ 127 →
        load printed = .ok (some (.single (.function node))) ∧
        ∀ (again : Invocation) (elsewhere : Surroundings) (settings : Settings),
          elsewhere.settings again.config = .ok settings →
          HoldText (elsewhere.sourceBytes again.file) printed →
            let asked := fun request => (again.asking request).outcome elsewhere
            let format := again.formatWith settings
            asked (.findFunction name) = ⟨.success, printed⟩ ∧
            (asked (.hasFunction name)).status.exitCode = 0 ∧
            (asked .params).status = .success ∧
            Prints format (placeholders.map fun literal => literal.value.display)
              (.array (placeholders.map Literal.toJson)) (asked .params).output ∧
            (asked .trace).status = .success ∧
            Prints format (block.map eventLine) (.array (block.map eventValue))
              (asked .trace).output) := by
  obtain ⟨settings, root, node, reads, found, output⟩ := exists_found_of_exitCode asked success
  obtain ⟨accepted, before, after, events, first⟩ := events_eq_of_findFunction_eq_some found
  obtain rfl : node.name = name := by simpa using accepted
  have reached : root.Reaches (.single (.function node)) := by
    rw [findFunction_eq_find?] at found
    exact (Root.mem_functions_iff node root).mp (List.mem_of_find?_eq_some found)
  have traced := (reads.asking .trace).outcome_eq
  have split : trace root = before ++ (Item.function node).events ++ after :=
    (trace_eq_events root).trans events
  refine ⟨settings, root, node, before, after, reads.configured, reads.loaded, output, rfl, split,
    ?_, ?_, ?_, Item.mem_filterMap_param?_iff (.function node), ?_⟩
  · rw [traced]
    rfl
  · rw [traced]
    simp only [← List.map_append, ← split]
    exact prints_events _ (trace root)
  · intro other earlier
    simpa using first other earlier
  · intro whole enough
    -- The first tree was loaded, and so what is below it lasts when it is written.
    obtain ⟨text, _, loaded⟩ := reads.loaded
    obtain ⟨value, _, read⟩ := load_eq_ok_iff.mp loaded
    have again : load (invocation.outcome surroundings).output = .ok node.toRoot := by
      rw [output]
      exact (Load.rootReading_of_ok read).load_pretty_function reached whole enough
    refine ⟨again, ?_⟩
    intro next elsewhere settings configured holds
    rw [output]
    exact Reads.answers_toRoot ⟨configured, _, holds, again⟩ whole

/-- The run that looks for the function in the standard input. -/
def averageSearch : Invocation := averageReport.asking (.findFunction "avg")

/-- It finds the function, so it ends with zero. What it needs is what the run that asks for a
report needs. -/
theorem averageSearch_exitCode :
    (averageSearch.outcome averageSurroundings).status.exitCode = 0 := by
  have reads : averageSearch.Reads averageSurroundings averageSettings averageTree :=
    averageReport_reads.asking _
  rw [reads.outcome_eq, Outcome.exitCode_ofAnswer_eq_zero_iff]
  rfl

/-- The lines of the function in a trace. -/
def averageLines : String :=
  "single function\nfunction avg\nsingle literal\nliteral ?1\nsingle literal\nliteral 7\n"

/-- The element of a trace for an event of a node without a location. -/
def averageElement (hook tag name : String) : Json.Value :=
  .object [("hook", .string hook), ("type", .string tag), ("name", .string name),
    ("location", .object [("min", .number (.ofUInt32 0)), ("max", .number (.ofUInt32 0))])]

/-- The elements of the function in a trace. -/
def averageElements : List Json.Value :=
  [averageElement "visit_single_ast_item" "function" "avg",
    averageElement "visit_function" "function" "avg",
    averageElement "visit_single_ast_item" "literal" "?1",
    averageElement "visit_literal" "literal" "?1",
    averageElement "visit_single_ast_item" "literal" "7",
    averageElement "visit_literal" "literal" "7"]

/-- The function is printed, and a run on what is printed prints the same. Its trace has the lines,
and as JSON the elements, that the function has between those of the command and of the column. -/
theorem found_function_read_again_average :
    let printed := (averageSearch.outcome averageSurroundings).output
    let there := averageSurroundings.withInput printed
    (averageSearch.outcome averageSurroundings).status.exitCode = 0 ∧
      load printed = .ok averageFunction.toRoot ∧
      averageSearch.outcome there = ⟨.success, printed⟩ ∧
      ((averageReport.asking .params).outcome there).output = "?1\n" ∧
      ((averageReport.asking .trace).outcome averageSurroundings).output =
        "command where\n" ++ averageLines ++ "single column\ncolumn b\n" ∧
      ((averageReport.asking .trace).outcome there).output = averageLines ∧
      Json.read ((averageJson.asking .trace).outcome there).output =
        .ok (.array averageElements) := by
  obtain ⟨settings, root, node, before, after, configured, held, _, named, split, _, traced, _, _,
    again⟩ := found_function_read_again (rfl : averageSearch.request = .findFunction "avg")
      averageSearch_exitCode
  obtain rfl : root = averageTree := tree_unique averageReport_reads.loaded held
  obtain rfl : averageSettings = settings :=
    Except.ok.inj (averageReport_reads.configured.symm.trans configured)
  have only : node = averageFunction := by
    have shown : Event.function node ∈ trace averageTree := by
      obtain ⟨header, form, args⟩ := node
      rw [split, Item.events, FunctionCall.events]
      simp
    simpa [trace_eq_events, averageTree, averageFunction, Root.events, Node.events, Node.allEvents,
      Command.events, Item.events, FunctionCall.events, Slot.allEvents, Slot.events, Atom.events,
      Atom.event?] using shown
  subst only
  simp only [← List.map_append, ← split] at traced
  have whole : NoDecimal averageFunction.atoms := by decide
  obtain ⟨loaded, elsewhere⟩ := again whole (by decide)
  have settled := averageReport_reads.configured
  obtain ⟨alike, _, _, placed, _, lines⟩ := elsewhere averageSearch
    (averageSurroundings.withInput (averageSearch.outcome averageSurroundings).output)
    averageSettings settled rfl
  obtain ⟨_, _, _, _, _, elements⟩ := elsewhere averageJson
    (averageSurroundings.withInput (averageSearch.outcome averageSurroundings).output)
    averageSettings settled rfl
  refine ⟨averageSearch_exitCode, loaded, alike, ?_, ?_, ?_, ?_⟩
  · exact placed.laidOut.trans (by decide)
  · exact traced.laidOut.trans (by decide)
  · exact lines.laidOut.trans (by decide)
  · exact elements.read rfl

end Invocation

end Cli

end EsqlTree
