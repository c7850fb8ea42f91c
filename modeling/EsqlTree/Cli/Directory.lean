import EsqlTree.Cli.Surroundings

/-!
# The working directory

What the paths of a command line lead to. A path is followed name by name from the
working directory, and every name but the last has to lead to a directory. A slash at
the end asks for a directory too. Of two mistakes in a path the first one met on the way
is told, and a name that is too long is refused before it is looked for.

Outside the working directory only what every system has is known: the directories
above, the root with `/dev` and `/tmp`, and the empty file `/dev/null`.
-/

namespace EsqlTree.Cli

/-- What a name in a directory stands for. -/
inductive Entry where
  | directory
  | file (bytes : ByteArray)
  /-- The device that reads as an empty file. -/
  | nullDevice

/-- What the working directory holds, by the names that lead there. -/
structure Directory where
  /-- The files. The directories on the way to them are there as well. -/
  files : List (List String × ByteArray) := []
  /-- Further directories. -/
  directories : List (List String) := []

/-- Where a path has led to. -/
inductive Place where
  /-- Under these names in the working directory. -/
  | within (names : List String)
  /-- Under these names in the root. -/
  | fromRoot (names : List String)
  /-- A directory above the working directory. -/
  | above
deriving DecidableEq, Repr

namespace Place

/-- The place that holds a place. The root holds itself. -/
def parent : Place → Place
  | .within [] => .above
  | .within names => .within names.dropLast
  | .fromRoot names => .fromRoot names.dropLast
  | .above => .above

/-- The place that a name leads to. Names above the working directory are not known. -/
def child? (place : Place) (name : String) : Option Place :=
  match place with
  | .within names => some (.within (names ++ [name]))
  | .fromRoot names => some (.fromRoot (names ++ [name]))
  | .above => none

end Place

/-- What every system has under names in its root. -/
def systemEntry? : List String → Option Entry
  | [] | ["dev"] | ["tmp"] => some .directory
  | ["dev", "null"] => some .nullDevice
  | _ => none

namespace Directory

/-- The names of an entry that a path leads to if every name of it does. -/
def entryNames (path : String) : List String :=
  (FilePath.names path).filter fun name => !FilePath.staysThere name

/-- The directory with files and directories at these paths. -/
def ofPaths (files : List (String × ByteArray)) (directories : List String) : Directory where
  files := files.map fun file => (entryNames file.1, file.2)
  directories := directories.map entryNames

/-- Whether names lead to a directory. -/
def hasDirectory (directory : Directory) (names : List String) : Bool :=
  directory.directories.any (fun entry => names.isPrefixOf entry)
    || directory.files.any (fun file => names.isPrefixOf file.1)

/-- What names lead to. -/
def entry? (directory : Directory) (names : List String) : Option Entry :=
  match directory.files.lookup names with
  | some bytes => some (.file bytes)
  | none => if directory.hasDirectory names then some .directory else none

/-- What is at a place. -/
def entryAt? (directory : Directory) : Place → Option Entry
  | .within names => directory.entry? names
  | .fromRoot names => systemEntry? names
  | .above => some .directory

/-- What names lead to from a directory at a place. -/
def follow (directory : Directory) (place : Place) : List String → Except ReadError Entry
  | [] => .ok .directory
  | name :: others =>
    if FilePath.staysThere name then directory.follow place others
    else if name = ".." then directory.follow place.parent others
    else if FilePath.isTooLongName name then .error .nameTooLong
    else
      match place.child? name with
      | none => .error .notFound
      | some next =>
        match directory.entryAt? next with
        | none => .error .notFound
        | some .directory => directory.follow next others
        | some entry => if others = [] then .ok entry else .error .notDirectory

/-- What a path leads to. A path that cannot be one is refused before it is followed. The
empty path leads nowhere, and one that starts with a slash starts in the root. -/
def resolve (directory : Directory) (path : String) : Except ReadError Entry :=
  if FilePath.hasNul path then .error .nulInPath
  else if FilePath.isTooLong path then .error .nameTooLong
  else
    match FilePath.names path with
    | [""] => .error .notFound
    | "" :: names => directory.follow (.fromRoot []) names
    | names => directory.follow (.within []) names

/-- Whether a path leads to a file, devices left out. -/
def isFile (directory : Directory) (path : String) : Bool :=
  match directory.resolve path with
  | .ok (.file _) => true
  | _ => false

/-- The bytes of the file that a path leads to. -/
def bytesAt (directory : Directory) (path : String) : Except ReadError ByteArray :=
  match directory.resolve path with
  | .ok (.file bytes) => .ok bytes
  | .ok .nullDevice => .ok .empty
  | .ok .directory => .error .isDirectory
  | .error error => .error error

/-- What surrounds a run in a directory with this standard input. -/
def surroundings (directory : Directory) (input : ByteArray) : Surroundings where
  isFile := directory.isFile
  bytesAt := directory.bytesAt
  input := .ok input

end Directory

end EsqlTree.Cli
