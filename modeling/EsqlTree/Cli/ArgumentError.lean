/-!
# What is wrong with a command line

A command line that asks for no run is refused for one reason. The wording of reasons is
in `ArgumentError.message` alone.
-/

namespace EsqlTree.Cli

/-- Why words ask for no run. To ask for help or for the version is one of the reasons. -/
inductive ArgumentError where
  /-- There is nothing to go by. -/
  | nothingAsked
  /-- Help is asked for. -/
  | helpAsked
  /-- The version is asked for. -/
  | versionAsked
  /-- A word asks no question that there is. -/
  | unknownRequest (word : String)
  /-- A word is no option, or there is no place for it. -/
  | unknownArgument (word : String)
  /-- An operand is missing. -/
  | missingOperand
  /-- There are options and no question. -/
  | missingRequest
  /-- An option has no value. -/
  | missingValue (name : String)
  /-- A value is not one that is allowed. -/
  | invalidValue (value : String)
  /-- An option stands twice. -/
  | repeatedOption (name : String)
  /-- A value is attached to an option that has none. -/
  | unexpectedValue (name value : String)
deriving DecidableEq, Repr

/-- The wording of an error. -/
def ArgumentError.message : ArgumentError → String
  | .helpAsked | .versionAsked => "nothing is to be run"
  | .unknownRequest word => "unrecognized subcommand '" ++ word ++ "'"
  | .unknownArgument word => "unexpected argument '" ++ word ++ "'"
  | .missingOperand => "an operand is missing"
  | .nothingAsked | .missingRequest => "a subcommand is missing"
  | .missingValue name => "a value is missing for '--" ++ name ++ "'"
  | .invalidValue value => "invalid value '" ++ value ++ "'"
  | .repeatedOption name => "'--" ++ name ++ "' cannot be used twice"
  | .unexpectedValue name value => "unexpected value '" ++ value ++ "' for '--" ++ name ++ "'"

end EsqlTree.Cli
