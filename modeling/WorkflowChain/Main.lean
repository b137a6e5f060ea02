import Std.Time.Format
import WorkflowChain.Shell.Session

/-! # The program

Gives the command line access to the files of the system.
-/

namespace WorkflowChain.Shell

/-- The error that the system reports. -/
def FileError.ofSystem : IO.Error → FileError
  | .noFileOrDirectory .. => .notFound
  | .alreadyExists .. => .alreadyExists
  | error => .other (toString error)

/-- Do something with the files of the system. -/
def attempted {α : Type} (action : IO α) : IO (Except FileError α) := do
  match ← action.toBaseIO with
  | .ok result => return .ok result
  | .error error => return .error (.ofSystem error)

/-- Make a folder of the system. Where there is a file, there can be no folder. -/
def makeSystemFolder (path : String) : IO Unit := IO.FS.createDirAll path

/-- The access to the files of the system. -/
def systemAccess : Access IO where
  read path := attempted (IO.FS.readFile path)
  makeFolder path := attempted (makeSystemFolder path)
  write path text := attempted (IO.FS.writeFile path text)

/-- A stamp for a compilation: a random number, and the time. -/
def newStamp : IO Stamp := do
  let number ← IO.rand 0 0xFFFFFFFFFFFFFFFFFFFFFFFFFFFFFFFF
  let time ← Std.Time.PlainDateTime.now
  return ⟨String.ofList (Nat.toDigits 16 number), time.toLeanDateTimeString⟩

end WorkflowChain.Shell

open WorkflowChain.Shell in
/-- Carry out the command line. -/
def main (arguments : List String) : IO UInt32 := do
  let ending ← run systemAccess (← newStamp) arguments
  IO.print ending.output
  IO.eprint ending.errors
  return ending.exitCode.toUInt32
