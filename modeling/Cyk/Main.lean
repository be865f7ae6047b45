import Cyk.Command.Run

/-!
# The program

Reads the grammar file and the standard input as far as the options need them, and writes what the
run leaves behind.
-/

namespace Cyk.Command

/-- The bytes of a file, or why there are none. -/
def readBytes (path : String) : IO (Except FileFault (List UInt8)) := do
  try
    return .ok (← IO.FS.readBinFile path).toList
  catch error =>
    match error with
    | .noFileOrDirectory .. => return .error .missing
    | .inappropriateType _ 21 _ => return .error .directory
    | .inappropriateType .. => return .error .notDirectory
    | other => return .error (.other (toString other))

/-- All bytes of a stream. -/
partial def readAll (stream : IO.FS.Stream) (before : ByteArray) : IO (List UInt8) := do
  let more ← stream.read 4096
  if more.isEmpty then return before.toList else readAll stream (before ++ more)

/-- The whole program: the bytes it needs, the run, and its outcome. -/
def program (arguments : List String) : IO UInt32 := do
  let options := Options.parse arguments
  let file ←
    match options with
    | .ok { grammar := some path, .. } => readBytes path
    | _ => pure (.error .missing)
  let input ←
    match options with
    | .ok { sentences := [], highlight := false, .. } => readAll (← IO.getStdin) .empty
    | _ => pure []
  let outcome := run arguments (fun _ => file) input (← IO.getEnv "CLICOLOR_FORCE")
  IO.print outcome.output
  IO.eprint outcome.errors
  return outcome.code.toUInt32

end Cyk.Command

def main (arguments : List String) : IO UInt32 :=
  Cyk.Command.program arguments
