import EsqlTree.Cli.Run

/-!
# The program

Reads what a command line needs, prints the answer, and tells on the error stream why
there is none.
-/

namespace EsqlTree.Cli

/-- Why the system did not read a file. -/
def ReadError.ofSystem : IO.Error → ReadError
  | .noFileOrDirectory .. => .notFound
  | .inappropriateType _ _ "not a directory" => .notDirectory
  | .inappropriateType _ 21 _ => .isDirectory
  | .invalidArgument _ 36 _ => .nameTooLong
  | error => .other (toString error)

/-- The bytes of a file. -/
def readFile (path : String) : IO (Except ReadError ByteArray) := do
  match ← (IO.FS.readBinFile path).toBaseIO with
  | .ok bytes => pure (.ok bytes)
  | .error error => pure (.error (.ofSystem error))

/-- Everything that a stream holds after some bytes. -/
partial def readAll (stream : IO.FS.Stream) (bytes : ByteArray) : IO ByteArray := do
  let more ← stream.read 0x10000
  if more.isEmpty then pure bytes else readAll stream (bytes ++ more)

/-- The bytes of the standard input. -/
def readInput : IO (Except ReadError ByteArray) := do
  match ← (readAll (← IO.getStdin) .empty).toBaseIO with
  | .ok bytes => pure (.ok bytes)
  | .error error => pure (.error (.ofSystem error))

/-- What surrounds a run, as far as the run can read it. -/
def look (invocation : Invocation) : IO Surroundings := do
  let files ← invocation.paths.mapM fun path => do pure (path, ← readFile path)
  let input ←
    if FilePath.isInput invocation.file then readInput else pure (.ok .empty)
  let bytesAt := fun path => (files.lookup path).getD (.error .notFound)
  let isFile := fun path =>
    match bytesAt path with
    | .ok _ | .error (.other _) => true
    | .error _ => false
  pure { isFile, bytesAt, input }

end EsqlTree.Cli

open EsqlTree.Cli in
/-- Runs a command line. -/
def main (words : List String) : IO UInt32 := do
  let outcome ←
    match Arguments.read words with
    | .error error =>
      let outcome := Outcome.ofArgumentError error
      if outcome.status = .failure then IO.eprintln error.message
      pure outcome
    | .ok invocation =>
      let answer := invocation.answer (← look invocation)
      if let .error error := answer then IO.eprintln error.message
      pure (.ofAnswer answer)
  IO.print outcome.output
  pure outcome.status.exitCode
