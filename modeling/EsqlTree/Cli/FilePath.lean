/-!
# Paths of files

A path is made of names with slashes between them. A path that starts or ends with a
slash, or has two in a row, has empty names there. How long a path and a name may be is
counted in bytes of UTF-8.
-/

namespace EsqlTree.Cli.FilePath

/-- The texts between the slashes of a text; there is always at least one. -/
def pieces : List Char → List (List Char)
  | [] => [[]]
  | c :: rest =>
    if c = '/' then [] :: pieces rest
    else
      match pieces rest with
      | [] => [[c]]
      | first :: others => (c :: first) :: others

/-- The names that a path is made of. -/
def names (path : String) : List String := (pieces path.toList).map String.ofList

/-- Whether a path has the character that ends every path for the system. -/
def hasNul (path : String) : Bool := path.toList.contains '\x00'

/-- Whether a path has more than 4095 bytes. -/
def isTooLong (path : String) : Bool := decide (4095 < path.utf8ByteSize)

/-- Whether a name has more than 255 bytes. -/
def isTooLongName (name : String) : Bool := decide (255 < name.utf8ByteSize)

/-- Whether a name leads nowhere else. -/
def staysThere (name : String) : Bool := name = "" || name = "."

/-- Whether a path stands for the standard input: one dash, and nothing after it that
leads elsewhere. -/
def isInput (path : String) : Bool :=
  match names path with
  | "-" :: others => others.all staysThere
  | _ => false

end EsqlTree.Cli.FilePath
