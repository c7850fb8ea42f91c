import EsqlTree.Cli.FilePath
import EsqlTree.Config.Settings

/-!
# What surrounds a run

A run reads files and the standard input, and nothing else decides what it answers. A
text is read only if its bytes are its encoding in UTF-8.

Settings come from the file that the command line names, or else from the first of two
fixed files that is there. A file that is there and holds no settings is an error, and
the second one is not tried.
-/

namespace EsqlTree.Cli

/-- Why no text can be read. -/
inductive ReadError where
  /-- There is nothing at the path. -/
  | notFound
  /-- At the path is a directory. -/
  | isDirectory
  /-- The path goes through a file. -/
  | notDirectory
  /-- The path, or a name in it, is too long. -/
  | nameTooLong
  /-- The path has a character that no path can have. -/
  | nulInPath
  /-- The bytes are no text. -/
  | notText
  /-- Any other failure, in the words of the system. -/
  | other (wording : String)
deriving DecidableEq, Repr

/-- The wording of an error. -/
def ReadError.message : ReadError → String
  | .notFound => "No such file or directory (os error 2)"
  | .isDirectory => "Is a directory (os error 21)"
  | .notDirectory => "Not a directory (os error 20)"
  | .nameTooLong => "File name too long (os error 36)"
  | .nulInPath => "file name contained an unexpected NUL byte"
  | .notText => "stream did not contain valid UTF-8"
  | .other wording => wording

/-- What a run can read. -/
structure Surroundings where
  /-- Whether there is a file at a path. -/
  isFile : String → Bool
  /-- The bytes of the file at a path. -/
  bytesAt : String → Except ReadError ByteArray
  /-- The bytes of the standard input. -/
  input : Except ReadError ByteArray

/-- The text whose encoding some bytes are. -/
def textOf (bytes : ByteArray) : Except ReadError String :=
  match String.fromUTF8? bytes with
  | some text => .ok text
  | none => .error .notText

/-- Why a run has no settings. -/
inductive ConfigurationError where
  /-- The file cannot be read. -/
  | unreadable (path : String) (error : ReadError)
  /-- The text of the file gives no settings. -/
  | refused (error : SettingsError)

/-- The wording of an error. -/
def ConfigurationError.message : ConfigurationError → String
  | .unreadable path error => "Failed to read config " ++ path ++ ": " ++ error.message
  | .refused error => error.message

/-- The files that give settings where none is named, in the order of preference. -/
def usualConfigurations : List String := ["./.esqlwalk.jsonc", "./.esqlwalk.json"]

namespace Surroundings

/-- The text of the file at a path. -/
def textAt (surroundings : Surroundings) (path : String) : Except ReadError String := do
  textOf (← surroundings.bytesAt path)

/-- The first of the usual configurations that is there. -/
def usualConfiguration? (surroundings : Surroundings) : Option String :=
  usualConfigurations.find? surroundings.isFile

/-- The settings of the file at a path. -/
def settingsAt (surroundings : Surroundings) (path : String) :
    Except ConfigurationError Settings :=
  match surroundings.textAt path with
  | .error error => .error (.unreadable path error)
  | .ok text =>
    match Settings.read text with
    | .ok settings => .ok settings
    | .error error => .error (.refused error)

/-- The settings of a run: those of the named file, or else those of a usual one, or else
none. -/
def settings (surroundings : Surroundings) (named : Option String) :
    Except ConfigurationError Settings :=
  match named <|> surroundings.usualConfiguration? with
  | some path => surroundings.settingsAt path
  | none => .ok {}

/-- The text of a tree. -/
def source (surroundings : Surroundings) (path : String) : Except ReadError String :=
  if FilePath.isInput path then do textOf (← surroundings.input)
  else surroundings.textAt path

end Surroundings

end EsqlTree.Cli
