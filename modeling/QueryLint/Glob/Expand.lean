import QueryLint.Files.Basic
import QueryLint.Glob.Pattern
import QueryLint.Path

/-!
# Finding files by a pattern

Here a pattern is taken name by name: what stands between two slashes is compared with the names in
a directory, so `*` stays within a name and `**` goes through the directories. The paths come in the
order of their names, what is in a directory before what follows it, and a path found from `.` on is
written without it.
-/

namespace QueryLint.Glob

/-- A pattern for the names on a path. -/
structure PathPattern where
  /-- Where the search starts. -/
  start : String
  /-- The patterns of the names. -/
  names : List Pattern
  /-- Whether only directories are looked for. -/
  onlyDirectories : Bool
  deriving DecidableEq, Repr

namespace PathPattern

/-- The texts between the slashes of a pattern; a slash at the end does not open one more. -/
def pieces (text : List Char) : List (List Char) :=
  let parts := Path.segments text
  if parts.getLast? == some [] then parts.dropLast else parts

/-- Reads a pattern, first as a whole and then name by name. -/
def parse (text : String) : Except Failure PathPattern := do
  let _ ← Pattern.parse text
  let isAbsolute := Path.isAbsolute text
  let parts := pieces (if isAbsolute then text.toList.drop 1 else text.toList)
  let names ← parts.mapM fun part => Pattern.parse (String.ofList part)
  return ⟨if isAbsolute then "/" else ".", names, Path.endsWithSlash text⟩

end PathPattern

/-- Whether a pattern is the one that goes through directories. -/
def Pattern.isRecursive (pattern : Pattern) : Bool :=
  pattern == [.anyDirectories]

/-- A name that stands for the directory itself or for the one above it. -/
def isSpecial (name : String) : Bool :=
  name == "." || name == ".."

/-- The names of the directory itself and of the one above it that a pattern stands for; it has to
start with a dot for that. -/
def specialNames (pattern : Pattern) : List String :=
  if pattern.head? == some (.char '.') then [".", ".."].filter pattern.matchesText else []

/-- The path of a name in a directory that is searched. -/
def pathIn (directory name : String) : String :=
  if Path.isHere directory then name else Path.join directory name

section

variable {m : Type → Type} [Monad m] (files : Files m) (onlyDirectories : Bool)

/-- The path itself, if it is wanted. -/
def deliver (path : String) : m (List String) := do
  if onlyDirectories && !(← files.isDirectory path) then return [] else return [path]

/-- What is found from a path on whose name is compared with the first of the patterns, given what
is found below a directory. -/
def compare (below : List Pattern → String → m (List String)) (name path : String) :
    List Pattern → m (List String)
  | [] => return []
  | pattern :: more =>
    if pattern.matchesText name then
      if more.isEmpty then deliver files onlyDirectories path else below more path
    else return []

/-- What is found from a path in a directory on, given what is found below a directory. -/
def visit (below : List Pattern → String → m (List String)) (pattern : Pattern)
    (more : List Pattern) (name path : String) : m (List String) := do
  if pattern.isRecursive then
    let rest := more.dropWhile Pattern.isRecursive
    if ← files.isDirectory path then
      let found ← if rest.isEmpty then pure [path]
        else compare files onlyDirectories below name path rest
      let deeper ← below (pattern :: rest) path
      return found ++ deeper
    else compare files onlyDirectories below name path rest
  else compare files onlyDirectories below name path (pattern :: more)

/-- The paths below a directory whose names patterns stand for, at most so many steps away. -/
def below : Nat → List Pattern → String → m (List String)
  | 0, _, _ => return []
  | _, [], _ => return []
  | depth + 1, pattern :: more, path => do
    let arrive (next : String) : m (List String) :=
      if more.isEmpty then deliver files onlyDirectories next else below depth more next
    match pattern.literal? with
    | some name =>
      let next := pathIn path name
      let found ← if isSpecial name then files.isDirectory path else files.exists? next
      if found then arrive next else return []
    | none =>
      match ← files.names? path with
      | none => return []
      | some names =>
        let special ← (specialNames pattern).reverse.mapM fun name => arrive (Path.join path name)
        let sorted := names.mergeSort fun a b => !(b < a)
        let children ← sorted.mapM fun name =>
          visit files onlyDirectories (below depth) pattern more name (pathIn path name)
        return special.flatten ++ children.flatten

end

/-- The most bytes that a path has; longer ones lead nowhere. -/
def longestPath : Nat := 4096

/-- The paths that a pattern stands for. -/
def expand {m : Type → Type} [Monad m] (files : Files m) (pattern : PathPattern) :
    m (List String) :=
  below files pattern.onlyDirectories (pattern.names.length + longestPath) pattern.names
    pattern.start

end QueryLint.Glob
