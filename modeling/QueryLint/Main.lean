import QueryLint.CommandLine.Perform

/-!
# The program

Answers what `Program.perform` asks about files and does what it says, with the parser of this
library.
-/

namespace QueryLint

/-- Why the system does not let a file be read. -/
def Files.Failure.ofError : IO.Error → Files.Failure
  | .noFileOrDirectory .. => .missing
  | .inappropriateType (some _) .. => .notDirectory
  | .inappropriateType none .. => .isDirectory
  | .permissionDenied .. => .other "Permission denied (os error 13)"
  | e => .other (toString e)

/-- What the system answers to a question, or nothing where it refuses. -/
def Files.answer? {α : Type} (question : IO α) : IO (Option α) := do
  match ← question.toBaseIO with
  | .ok answer => return some answer
  | .error _ => return none

/-- The files of this machine. -/
def Files.ofMachine : IO (Files IO) := do
  let here ← IO.currentDir
  return {
    kind? := fun path => do
      let found ← Files.answer? { here with toString := path }.metadata
      return found.map fun metadata =>
        match metadata.type with
        | .file => .regular
        | .dir => .directory
        | _ => .other
    names? := fun path => do
      let found ← Files.answer? { here with toString := path }.readDir
      return found.map fun entries => entries.toList.map fun entry => entry.fileName
    read := fun path => do
      match ← (IO.FS.readBinFile { here with toString := path }).toBaseIO with
      | .ok bytes => return .ok bytes
      | .error e => return .error (.ofError e) }

/-- What a program can do on this machine. -/
def System.ofMachine : IO (System IO) := do
  return {
    toFiles := ← Files.ofMachine
    create := fun new => do
      match ← (IO.FS.writeFile new.name new.text).toBaseIO with
      | .ok () => return none
      | .error e => return some (.ofError e)
    print := fun text => IO.print text
    complain := fun text => IO.eprint text }

end QueryLint

open QueryLint in
/-- Runs the program with the arguments it was called with. -/
def main (arguments : List String) : IO UInt32 := do
  let place := (Path.names (← IO.currentDir).toString).filter fun name => name != ""
  let color ← (← IO.getStdout).isTty
  let code ← Program.perform (← System.ofMachine) .standard place color arguments
  return code.toUInt32
