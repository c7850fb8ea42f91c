import EsqlTree.Cli.Level

/-!
# Reading a command line

The words are read at two levels: the outer one up to the word that asks a question, and
the inner one after it. The outer level ends after the inner one, so what waits there is
accepted last.
-/

namespace EsqlTree.Cli.Arguments

/-- Whether there is help about what words name: about the program, or about one kind of
question, or about help. -/
def helpFor : List String → ArgumentError
  | [] => .helpAsked
  | word :: others =>
    if word = "help" || (Subcommand.ofWord? word).isSome then
      match others with
      | [] => .helpAsked
      | next :: _ => .unknownRequest next
    else .unknownRequest word

/-- The run that the words after a question ask for, and what was read before it. -/
def readInner (outer : Level) (subcommand : Subcommand) (words : List String) :
    Except ArgumentError Invocation := do
  let inner ← Level.readWords { subcommand := some subcommand } words
  match subcommand.request? inner.operands with
  | none => .error .missingOperand
  | some (file, request) =>
    let outer ← outer.accept
    let options := inner.options.within outer.options
    .ok { request, file, config := options.config, verbose := options.verbose,
          format := options.format }

/-- The run that words ask for after what was read before them. -/
def readOuter (outer : Level) : List String → Except ArgumentError Invocation
  | [] => do
    let outer ← outer.accept
    .error (if outer.options = {} then .nothingAsked else .missingRequest)
  | word :: others =>
    if outer.verbatim || outer.awaitsValue then do
      readOuter (← outer.readWord word) others
    else if word = "help" then .error (helpFor others)
    else
      match Subcommand.ofWord? word with
      | some subcommand => readInner outer subcommand others
      | none => do readOuter (← outer.readWord word) others

/-- The run that a command line asks for. -/
def read (words : List String) : Except ArgumentError Invocation :=
  readOuter { subcommand := none } words

end EsqlTree.Cli.Arguments
