/-!
# Files

Why a file may not be readable, and a directory of files held in memory, which answers as the one
on a disk does.
-/

namespace Cyk.Command

/-- Why a file could not be read. -/
inductive FileFault where
  | missing
  | notDirectory
  | directory
  | notText
  | other (reason : String)
deriving DecidableEq, Repr

/-- The reason in words. -/
def FileFault.message : FileFault → String
  | .missing => "No such file or directory (os error 2)"
  | .notDirectory => "Not a directory (os error 20)"
  | .directory => "Is a directory (os error 21)"
  | .notText => "stream did not contain valid UTF-8"
  | .other reason => reason

/-- The files of one directory, by name. -/
structure Directory where
  files : List (String × List UInt8)

namespace Directory

/-- The steps of a path, in order.  Between slashes, an empty step or a dot leads nowhere else, but
the last of them asks for a directory. -/
def steps (path : List Char) : List (List Char) :=
  match path with
  | [] => [[]]
  | c :: rest =>
    match steps rest with
    | [] => [[c]]
    | step :: more => if c = '/' then [] :: step :: more else (c :: step) :: more

/-- Whether a step leads nowhere else. -/
def isStill (step : List Char) : Bool :=
  step.isEmpty || step == ['.']

/-- Reads along a path, seen from this directory.  The directory above is there, and everything
else outside this one is not. -/
def readSteps (directory : Directory) : List (List Char) → Except FileFault (List UInt8)
  | [] => .error .directory
  | step :: rest =>
    if isStill step then directory.readSteps rest
    else if step == ['.', '.'] then
      if rest.all isStill then .error .directory else .error .missing
    else
      match directory.files.lookup (String.ofList step) with
      | none => .error .missing
      | some bytes => if rest.isEmpty then .ok bytes else .error .notDirectory

/-- The bytes of the file at a path.  No file has an empty path, and only the root begins with a
slash. -/
def read (directory : Directory) (path : String) : Except FileFault (List UInt8) :=
  match path.toList with
  | [] => .error .missing
  | '/' :: rest => if (steps rest).all isStill then .error .directory else .error .missing
  | path => directory.readSteps (steps path)

end Directory

end Cyk.Command
