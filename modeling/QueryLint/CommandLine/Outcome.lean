import QueryLint.CommandLine.Diagnostic
import QueryLint.Files.Tree

/-!
# Outcomes

What a run of the program comes to. A run reads files and then says what is to be written, so
nothing has happened before it is known that nothing goes wrong. The lines of a log, which a run may be
asked to keep on the output for complaints, are left out.
-/

namespace QueryLint

/-- A file that a run makes, in the directory where the program runs. -/
structure NewFile where
  name : String
  text : String
  deriving DecidableEq, Repr

/-- What a run writes, and the code with which it ends. -/
structure Outcome where
  code : Nat := 0
  stdout : String := ""
  stderr : String := ""
  newFile? : Option NewFile := none
  deriving DecidableEq, Repr

namespace Outcome

/-- The outcome of a run that stops before it has done anything. -/
def ofDiagnostic (diagnostic : Diagnostic) : Outcome :=
  { code := 2, stderr := diagnostic.render }

/-- The outcome of a run that may have stopped. -/
def ofExcept : Except Diagnostic Outcome → Outcome
  | .ok outcome => outcome
  | .error diagnostic => ofDiagnostic diagnostic

/-- The file tree after a run at a place in it. -/
def treeAfter (outcome : Outcome) (tree : FileTree) (workplace : Location) : FileTree :=
  match outcome.newFile? with
  | none => tree
  | some new => tree.put (workplace ++ [new.name]) (.file new.text.toUTF8)

end Outcome

end QueryLint
