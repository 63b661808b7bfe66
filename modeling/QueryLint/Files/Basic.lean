/-!
# Files

What a program may ask about the files of a machine. The questions are asked in a monad, so that the
same program runs on a machine and on a file tree held as a value (`FileTree.files`), where the
answers cost nothing and never change.
-/

namespace QueryLint

namespace Files

/-- What stands under a path. -/
inductive Kind
  | regular
  | directory
  | other
  deriving DecidableEq, Repr

/-- Why a file cannot be read. -/
inductive Failure
  | missing
  | notDirectory
  | isDirectory
  | notText
  | other (message : String)
  deriving DecidableEq, Repr

/-- What is said of a file that cannot be read. -/
def Failure.message : Failure → String
  | missing => "No such file or directory (os error 2)"
  | notDirectory => "Not a directory (os error 20)"
  | isDirectory => "Is a directory (os error 21)"
  | notText => "stream did not contain valid UTF-8"
  | other message => message

end Files

/-- The questions that a program may ask, each about a path. -/
structure Files (m : Type → Type) where
  /-- What stands under a path, if there is anything. -/
  kind? : String → m (Option Files.Kind)
  /-- The names in a directory, in any order. -/
  names? : String → m (Option (List String))
  /-- The bytes of a file. -/
  read : String → m (Except Files.Failure ByteArray)

namespace Files

variable {m : Type → Type} [Monad m] (files : Files m)

/-- Whether there is anything under a path. -/
def exists? (path : String) : m Bool :=
  return (← files.kind? path).isSome

/-- Whether there is a directory under a path. -/
def isDirectory (path : String) : m Bool :=
  return (← files.kind? path) == some .directory

/-- Whether there is a regular file under a path. -/
def isRegular (path : String) : m Bool :=
  return (← files.kind? path) == some .regular

/-- The text that bytes stand for. -/
def decode (bytes : ByteArray) : Except Failure String :=
  match String.fromUTF8? bytes with
  | some text => .ok text
  | none => .error .notText

/-- The text of a file. -/
def readText (path : String) : m (Except Failure String) :=
  return (← files.read path).bind decode

end Files

end QueryLint
