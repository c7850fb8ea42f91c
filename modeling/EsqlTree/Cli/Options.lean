import EsqlTree.Cli.ArgumentError
import EsqlTree.Config.Settings

/-!
# Options of a command line

Two options have a value, the path of a configuration and a format; the others have
none. At one level of a command line an option may stand only once. Where it stands at
two, the inner one counts.
-/

namespace EsqlTree.Cli

/-- An option with a value. -/
inductive ValueOption where
  | config
  | format
deriving DecidableEq, Repr

/-- An option without a value. -/
inductive Flag where
  | verbose
  | help
  | version
deriving DecidableEq, Repr

/-- An option of either sort. -/
inductive Switch where
  | valued (option : ValueOption)
  | flag (flag : Flag)
deriving DecidableEq, Repr

/-- The name of an option. -/
def ValueOption.name : ValueOption → String
  | .config => "config"
  | .format => "format"

/-- The options of one level. -/
structure Options where
  /-- The path of the configuration. -/
  config : Option String := none
  /-- Whether to tell more about the run. -/
  verbose : Bool := false
  /-- The format of the output. -/
  format : Option OutputFormat := none
deriving DecidableEq, Repr

namespace Options

/-- Gives an option its value. -/
def set (options : Options) (option : ValueOption) (value : String) :
    Except ArgumentError Options :=
  match option with
  | .config =>
    if options.config.isSome then .error (.repeatedOption option.name)
    else if value = "" then .error (.invalidValue value)
    else .ok { options with config := some value }
  | .format =>
    if options.format.isSome then .error (.repeatedOption option.name)
    else
      match OutputFormat.ofName? value with
      | some format => .ok { options with format := some format }
      | none => .error (.invalidValue value)

/-- The options of an inner level, those of the outer one standing in for the others. -/
def within (inner outer : Options) : Options where
  config := inner.config <|> outer.config
  verbose := inner.verbose || outer.verbose
  format := inner.format <|> outer.format

end Options

end EsqlTree.Cli
