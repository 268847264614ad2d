import NoteMarkup.CommandLine.Run

/-!
# The program

Connects the program to files and standard streams.
-/

namespace NoteMarkup

/-- Reads a stream to its end. -/
partial def readToEnd (stream : IO.FS.Stream) (bytes : ByteArray) : IO ByteArray := do
  let chunk ← stream.read 65536
  if chunk.isEmpty then return bytes else readToEnd stream (bytes ++ chunk)

def ReadError.ofSystem : IO.Error → ReadError
  | .noFileOrDirectory .. => .notFound
  | .inappropriateType .. => .isDirectory
  | e => .other (toString e)

def readBytes (action : IO ByteArray) : IO (Except ReadError ByteArray) := do
  try
    return .ok (← action)
  catch e =>
    return .error (.ofSystem e)

/-- The files and the standard input of the system. -/
def systemSurroundings : Surroundings IO where
  readFile path := readBytes (IO.FS.readBinFile path)
  readInput := readBytes do readToEnd (← IO.getStdin) .empty

end NoteMarkup

/-- Runs the program on its arguments. -/
def main (args : List String) : IO UInt32 := do
  let outcome ← NoteMarkup.run NoteMarkup.systemSurroundings args
  IO.print outcome.output
  IO.eprint outcome.errors
  return UInt32.ofNat outcome.status
