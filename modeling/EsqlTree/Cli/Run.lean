import EsqlTree.Cli.Answer
import EsqlTree.Cli.Arguments
import EsqlTree.Cli.Surroundings
import EsqlTree.Tree.Load

/-!
# Runs of the program

The settings are read first, then the tree. If either fails nothing is printed. A run
tells by its status whether it failed, and if not, whether it found what it was asked to
look for.
-/

namespace EsqlTree.Cli

/-- Why a run fails. -/
inductive RunError where
  /-- There are no settings. -/
  | configuration (error : ConfigurationError)
  /-- The text of the tree cannot be read. -/
  | unreadable (path : String) (error : ReadError)
  /-- The text is not that of a tree. -/
  | malformed (path : String) (error : LoadError)

/-- The wording of an error. -/
def RunError.message : RunError → String
  | .configuration error => error.message
  | .unreadable path error => "Failed to read " ++ path ++ ": " ++ error.message
  | .malformed path error => "Failed to load AST from " ++ path ++ ": " ++ error.message

/-- The tree of a text that was read from a path. -/
def loadFrom (path text : String) : Except RunError Root :=
  match load text with
  | .ok root => .ok root
  | .error error => .error (.malformed path error)

namespace Invocation

/-- The settings of a run. -/
def settings (invocation : Invocation) (surroundings : Surroundings) :
    Except RunError Settings :=
  match surroundings.settings invocation.config with
  | .ok settings => .ok settings
  | .error error => .error (.configuration error)

/-- The tree of a run. -/
def root (invocation : Invocation) (surroundings : Surroundings) : Except RunError Root :=
  match surroundings.source invocation.file with
  | .ok text => loadFrom invocation.file text
  | .error error => .error (.unreadable invocation.file error)

/-- The answer of a run. The format that the command line names counts before that of the
settings. -/
def answer (invocation : Invocation) (surroundings : Surroundings) : Except RunError Answer := do
  let settings ← invocation.settings surroundings
  let root ← invocation.root surroundings
  let format := invocation.format.getD settings.format
  .ok (invocation.request.answer root settings.functions format)

/-- The files that a run may read. -/
def paths (invocation : Invocation) : List String :=
  let configurations :=
    match invocation.config with
    | some path => [path]
    | none => usualConfigurations
  if FilePath.isInput invocation.file then configurations
  else invocation.file :: configurations

end Invocation

/-- How a run ends. -/
inductive Status where
  /-- It has answered. -/
  | success
  /-- It has answered that what it looked for is not there. -/
  | nothingFound
  /-- It has failed. -/
  | failure
deriving DecidableEq, Repr

/-- The exit code of a status. -/
def Status.exitCode : Status → UInt32
  | .success => 0
  | .nothingFound => 1
  | .failure => 2

/-- What can be seen of a run. -/
structure Outcome where
  /-- How it ends. -/
  status : Status
  /-- What it prints. -/
  output : String
deriving DecidableEq

namespace Outcome

/-- What can be seen of a run with this answer, or with none. -/
def ofAnswer : Except RunError Answer → Outcome
  | .ok answer => ⟨if answer.found then .success else .nothingFound, answer.output⟩
  | .error _ => ⟨.failure, ""⟩

/-- A run fails only for an error. -/
theorem status_ofAnswer_eq_failure_iff (result : Except RunError Answer) :
    (ofAnswer result).status = .failure ↔ ∃ error, result = .error error := by
  cases result with
  | error error => simp [ofAnswer]
  | ok answer => cases found : answer.found <;> simp [ofAnswer, found]

/-- A run that fails prints nothing. -/
theorem output_eq_empty_of_failure {result : Except RunError Answer}
    (failed : (ofAnswer result).status = .failure) : (ofAnswer result).output = "" := by
  obtain ⟨error, rfl⟩ := (status_ofAnswer_eq_failure_iff result).mp failed
  rfl

/-- The text that tells the version. -/
def version : String := "esqlwalk 0.1.0\n"

/-- The text that tells how to ask. -/
def help : String := textLines [
  "Usage: esqlwalk [OPTIONS] <COMMAND>",
  "",
  "Commands:",
  "  commands FILE            List every command in the tree",
  "  params FILE              List every parameter literal in the tree",
  "  find-function FILE NAME  Print the first function with the given name",
  "  has-function FILE NAME   Check whether a function with the given name exists",
  "  trace FILE               Print every visitor hook call in traversal order",
  "  report FILE              Summarize commands, parameters and configured functions",
  "",
  "Options:",
  "  -c, --config <CONFIG>    Configuration file path",
  "  -v, --verbose            Enable verbose output",
  "  -f, --format <FORMAT>    Output format, text or json",
  "  -h, --help               Print help",
  "  -V, --version            Print version"]

/-- What can be seen of a run whose command line asks for nothing. -/
def ofArgumentError : ArgumentError → Outcome
  | .helpAsked => ⟨.success, help⟩
  | .versionAsked => ⟨.success, version⟩
  | _ => ⟨.failure, ""⟩

end Outcome

/-- What can be seen of the run of a command line. -/
def run (words : List String) (surroundings : Surroundings) : Outcome :=
  match Arguments.read words with
  | .ok invocation => .ofAnswer (invocation.answer surroundings)
  | .error error => .ofArgumentError error

end EsqlTree.Cli
