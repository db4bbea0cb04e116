import Placard.Command.Run

set_option relaxedAutoImplicit false
set_option autoImplicit false

/-!
# The program

Gives a command line the files and the standard input that it may read, and prints the answer.
-/

namespace Placard

/-- Why a file was not read. -/
def readErrorOf : IO.Error → ReadError
  | .noFileOrDirectory .. => .noSuchFile
  | .inappropriateType .. => .isDirectory
  | e => .other (toString e)

/-- The bytes of a file, or why it was not read. -/
def tryReadFile (name : String) : IO (Except ReadError ByteArray) := do
  try
    return .ok (← IO.FS.readBinFile name)
  catch e =>
    return .error (readErrorOf e)

/-- The files that a command line names, with what was read of each. -/
def filesOf (arguments : List String) : IO (List (String × Except ReadError ByteArray)) := do
  match Invocation.parse arguments with
  | .error _ => return []
  | .ok i =>
    (i.stylesheet.toList ++ i.input.toList).mapM fun name => do
      return (name, ← tryReadFile name)

/-- The standard input, if the command line reads it. -/
def inputOf (arguments : List String) : IO ByteArray := do
  match Invocation.parse arguments with
  | .ok { input := none, .. } => (← IO.getStdin).readBinToEnd
  | _ => return ByteArray.empty

end Placard

/-- Runs the command line on the files that it names and on the standard input. -/
def main (arguments : List String) : IO UInt32 := do
  let files ← Placard.filesOf arguments
  let stdin ← Placard.inputOf arguments
  let file := fun name => (files.lookup name).getD (.error .noSuchFile)
  let outcome := Placard.Command.run arguments { file, stdin }
  IO.print outcome.stdout
  IO.eprint outcome.stderr
  return outcome.code.toUInt32
