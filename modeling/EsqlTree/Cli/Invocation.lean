import EsqlTree.Config.Settings

/-!
# Invocations

What the program can be asked for: one question about one tree, and the settings of
the run. A question that looks for a function has the name of the function as its
second operand; the first operand of every question is the path of the tree.
-/

namespace EsqlTree.Cli

/-- A question about a tree. -/
inductive Request where
  /-- Every command. -/
  | commands
  /-- Every placeholder. -/
  | params
  /-- The first function of a name. -/
  | findFunction (name : String)
  /-- Whether there is a function of a name. -/
  | hasFunction (name : String)
  /-- Every event of a walk. -/
  | trace
  /-- A summary. -/
  | report
deriving DecidableEq, Repr

/-- A run of the program. -/
structure Invocation where
  /-- What is asked. -/
  request : Request
  /-- The path of the tree. -/
  file : String
  /-- The path of the configuration, if one is named. -/
  config : Option String := none
  /-- Whether to tell more about the run. This changes no result. -/
  verbose : Bool := false
  /-- The format of the output, if one is named. -/
  format : Option OutputFormat := none
deriving DecidableEq, Repr

/-- The kind of a question, which the first plain word tells. -/
inductive Subcommand where
  | commands
  | params
  | findFunction
  | hasFunction
  | trace
  | report
deriving DecidableEq, Repr

namespace Subcommand

/-- Every kind of question once. -/
def all : List Subcommand :=
  [.commands, .params, .findFunction, .hasFunction, .trace, .report]

/-- The word that asks a question of a kind. -/
def word : Subcommand → String
  | .commands => "commands"
  | .params => "params"
  | .findFunction => "find-function"
  | .hasFunction => "has-function"
  | .trace => "trace"
  | .report => "report"

/-- The kind of question that a word asks. -/
def ofWord? (word : String) : Option Subcommand :=
  all.find? fun subcommand => subcommand.word = word

/-- No two kinds of question are asked by one word. -/
@[simp] theorem ofWord?_word (subcommand : Subcommand) :
    ofWord? subcommand.word = some subcommand := by
  cases subcommand <;> decide

/-- How many operands a question of a kind has. -/
def operandCount : Subcommand → Nat
  | .findFunction | .hasFunction => 2
  | .commands | .params | .trace | .report => 1

/-- The path and the question that operands stand for, if all are there. -/
def request? : Subcommand → List String → Option (String × Request)
  | .commands, [file] => some (file, .commands)
  | .params, [file] => some (file, .params)
  | .findFunction, [file, name] => some (file, .findFunction name)
  | .hasFunction, [file, name] => some (file, .hasFunction name)
  | .trace, [file] => some (file, .trace)
  | .report, [file] => some (file, .report)
  | _, _ => none

end Subcommand

namespace Request

/-- The kind of a question. -/
def subcommand : Request → Subcommand
  | .commands => .commands
  | .params => .params
  | .findFunction _ => .findFunction
  | .hasFunction _ => .hasFunction
  | .trace => .trace
  | .report => .report

/-- The name of the function that is looked for. -/
def name? : Request → Option String
  | .findFunction name | .hasFunction name => some name
  | .commands | .params | .trace | .report => none

/-- Every question can be asked: by its path, and the name if it has one. -/
theorem request?_subcommand (request : Request) (file : String) :
    request.subcommand.request? (file :: request.name?.toList) = some (file, request) := by
  cases request <;> rfl

/-- A question has as many operands as its kind says. -/
theorem operandCount_subcommand (request : Request) :
    request.subcommand.operandCount = request.name?.toList.length + 1 := by
  cases request <;> rfl

end Request

end EsqlTree.Cli
