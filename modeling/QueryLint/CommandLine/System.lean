import QueryLint.CommandLine.Outcome

/-!
# Systems

What a program can do besides asking about files: it makes a file and writes to its two outputs. What
it does takes effect at once, whatever comes after it; lines of a log are not among what it writes. A
machine held as a value is such a system (`Machine.system`): its questions are answered from the files
that it has by then.
-/

namespace QueryLint

/-- What a program can do, each act in its turn. -/
structure System (m : Type → Type) extends Files m where
  /-- Makes a file where the program runs; the answer is why that is not possible, if it is not. -/
  create : NewFile → m (Option Files.Failure)
  /-- Writes to the output. -/
  print : String → m Unit
  /-- Writes to the output for complaints. -/
  complain : String → m Unit

/-- A machine as a value: its files, and what was written to the outputs. -/
structure Machine where
  tree : FileTree
  stdout : String := ""
  stderr : String := ""

namespace Machine

/-- A question about the files that a machine has. -/
def ask {α : Type} (workplace : Location) (question : Files Id → Id α) : StateM Machine α :=
  fun machine => (question (machine.tree.files workplace), machine)

/-- What a program can do that runs at a place of a machine, given why the machine lets no file be
made, if it does not. -/
def system (workplace : Location) (refusal? : Option Files.Failure) : System (StateM Machine) where
  kind? path := ask workplace (·.kind? path)
  names? path := ask workplace (·.names? path)
  read path := ask workplace (·.read path)
  create new := fun machine =>
    match refusal? with
    | some failure => (some failure, machine)
    | none =>
      let place := workplace ++ [new.name]
      (none, { machine with tree := machine.tree.put place (.file new.text.toUTF8) })
  print text := modify fun machine => { machine with stdout := machine.stdout ++ text }
  complain text := modify fun machine => { machine with stderr := machine.stderr ++ text }

end Machine

end QueryLint
