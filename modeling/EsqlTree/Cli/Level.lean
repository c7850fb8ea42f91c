import EsqlTree.Cli.Invocation
import EsqlTree.Cli.Options
import EsqlTree.Cli.Word

/-!
# One level of a command line

The words of one level are read from left to right. A value or operand in a word of its
own waits: it is accepted only when the next option or operand is, or at the end. So of
two mistakes the one that is told is not always the first. A word that fits nowhere is
refused at once, and a bad value that waits before it goes unnoticed.
-/

namespace EsqlTree.Cli

/-- What has been read and not yet accepted. -/
inductive Waiting where
  /-- An option, with its value once that has been read. -/
  | option (option : ValueOption) (value : Option String)
  /-- An operand. -/
  | operand (text : String)
deriving DecidableEq, Repr

/-- What has been read at one level. -/
structure Level where
  /-- The question of the level; there is none at the outer level. -/
  subcommand : Option Subcommand
  /-- The options accepted. -/
  options : Options := {}
  /-- The operands accepted, in order. -/
  operands : List String := []
  /-- What is still to be accepted. -/
  waiting : Option Waiting := none
  /-- Whether all further words are taken as they stand. -/
  verbatim : Bool := false
deriving DecidableEq, Repr

namespace Level

/-- The option of a name. Only the outer level tells the version. -/
def switchNamed? (level : Level) (name : String) : Option Switch :=
  if name = "config" then some (.valued .config)
  else if name = "format" then some (.valued .format)
  else if name = "verbose" then some (.flag .verbose)
  else if name = "help" then some (.flag .help)
  else if name = "version" ∧ level.subcommand = none then some (.flag .version)
  else none

/-- The option of a letter. Only the outer level tells the version. -/
def switchLettered? (level : Level) (letter : Char) : Option Switch :=
  if letter = 'c' then some (.valued .config)
  else if letter = 'f' then some (.valued .format)
  else if letter = 'v' then some (.flag .verbose)
  else if letter = 'h' then some (.flag .help)
  else if letter = 'V' ∧ level.subcommand = none then some (.flag .version)
  else none

/-- How many operands there may be. -/
def capacity (level : Level) : Nat :=
  match level.subcommand with
  | some subcommand => subcommand.operandCount
  | none => 0

/-- How many operands have been read. -/
def operandsRead (level : Level) : Nat :=
  match level.waiting with
  | some (.operand _) => level.operands.length + 1
  | _ => level.operands.length

/-- Whether the next plain word is the value of an option. -/
def awaitsValue (level : Level) : Bool :=
  match level.waiting with
  | some (.option _ none) => true
  | _ => false

/-- Accepts what waits. The path of the tree, which is the first operand, is not empty. -/
def accept (level : Level) : Except ArgumentError Level :=
  match level.waiting with
  | none => .ok level
  | some (.option option none) => .error (.missingValue option.name)
  | some (.option option (some value)) =>
    match level.options.set option value with
    | .ok options => .ok { level with options, waiting := none }
    | .error error => .error error
  | some (.operand text) =>
    if level.operands.isEmpty ∧ text = "" then .error (.invalidValue text)
    else .ok { level with operands := level.operands ++ [text], waiting := none }

/-- Reads an option that has no value. -/
def raise (level : Level) (flag : Flag) : Except ArgumentError Level := do
  let level ← level.accept
  match flag with
  | .verbose =>
    if level.options.verbose then .error (.repeatedOption "verbose")
    else .ok { level with options := { level.options with verbose := true } }
  | .help => .error .helpAsked
  | .version => .error .versionAsked

/-- Reads an option whose value is attached to it. -/
def attach (level : Level) (option : ValueOption) (value : String) :
    Except ArgumentError Level := do
  let level ← level.accept
  let options ← level.options.set option value
  .ok { level with options }

/-- Reads an option whose value is to follow. -/
def await (level : Level) (option : ValueOption) : Except ArgumentError Level := do
  let level ← level.accept
  .ok { level with waiting := some (.option option none) }

/-- Reads an option by its name. -/
def readNamed (level : Level) (name : String) (value : Option String) :
    Except ArgumentError Level :=
  match level.switchNamed? name, value with
  | some (.valued option), some value => level.attach option value
  | some (.valued option), none => level.await option
  | some (.flag flag), none => level.raise flag
  | some (.flag _), some value => .error (.unexpectedValue name value)
  | none, _ => .error (.unknownArgument ("--" ++ name))

/-- Reads option letters. An equals sign before an attached value is left out. -/
def readLetters (level : Level) (letter : Char) (others : List Char) :
    Except ArgumentError Level :=
  match level.switchLettered? letter, others with
  | some (.valued option), [] => level.await option
  | some (.valued option), '=' :: value => level.attach option (String.ofList value)
  | some (.valued option), value => level.attach option (String.ofList value)
  | some (.flag flag), [] => level.raise flag
  | some (.flag flag), next :: others => do (← level.raise flag).readLetters next others
  | none, _ => .error (.unknownArgument (String.ofList ['-', letter]))

/-- Reads an operand. At the outer level, where there are none, the word is seen as a
question, and a known one stands behind the mark that stops it from being asked. -/
def readOperand (level : Level) (text : String) : Except ArgumentError Level :=
  if level.operandsRead < level.capacity then do
    let level ← level.accept
    .ok { level with waiting := some (.operand text) }
  else if level.subcommand.isSome || text = "help" || (Subcommand.ofWord? text).isSome then
    .error (.unknownArgument text)
  else .error (.unknownRequest text)

/-- Reads a plain word: the value that is awaited, or else an operand. -/
def readPlain (level : Level) (text : String) : Except ArgumentError Level :=
  match level.waiting with
  | some (.option option none) =>
    .ok { level with waiting := some (.option option (some text)) }
  | _ => level.readOperand text

/-- Reads one word. -/
def readWord (level : Level) (word : String) : Except ArgumentError Level :=
  if level.verbatim then level.readOperand word
  else
    match Word.ofString word with
    | .terminator => .ok { level with verbatim := true }
    | .long name value => level.readNamed name value
    | .letters first others => level.readLetters first others
    | .plain => level.readPlain word

/-- Reads words up to the end. -/
def readWords (level : Level) : List String → Except ArgumentError Level
  | [] => level.accept
  | word :: others => do (← level.readWord word).readWords others

end Level

end EsqlTree.Cli
