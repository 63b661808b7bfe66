/-!
# Paths

A path is kept as it was written: names with slashes between them, where `.` stands for the directory
itself and `..` for the one above it. A path that starts with a slash starts at the root, any other
one where the program runs.

A `Location` is a place in a file tree, free of such detours: the names on the way from the root.
-/

namespace QueryLint

/-- The names on the way from the root to a file or a directory. -/
abbrev Location := List String

namespace Path

/-- The parts of a text between its slashes; a text without slashes is one part. -/
def segments : List Char → List (List Char)
  | [] => [[]]
  | c :: rest =>
    if c = '/' then [] :: segments rest
    else match segments rest with
      | [] => [[c]]
      | first :: more => (c :: first) :: more

/-- The names of a path, counted from where it starts. -/
def names (path : String) : List String :=
  let parts := match path.toList with
    | '/' :: rest => segments rest
    | text => segments text
  parts.map String.ofList

/-- Whether a path starts at the root. -/
def isAbsolute (path : String) : Bool :=
  path.toList.head? == some '/'

/-- Whether a path ends with a slash, so that only a directory can be meant. -/
def endsWithSlash (path : String) : Bool :=
  path.toList.getLast? == some '/'

/-- The path of a name in a directory. -/
def join (directory name : String) : String :=
  if directory.isEmpty || endsWithSlash directory then directory ++ name
  else directory ++ "/" ++ name

/-- Whether a path is a way of writing `.`, the directory where the program runs. -/
def isHere (path : String) : Bool :=
  match segments path.toList with
  | ['.'] :: more => more.all fun part => part == [] || part == ['.']
  | _ => false

/-- What follows the last dot of the last name, unless the name starts with that dot. -/
def extension (path : String) : String :=
  let name := (segments path.toList).getLastD []
  match name.reverse.span (· != '.') with
  | (ending, _ :: _ :: _) => String.ofList ending.reverse
  | _ => ""

/-- The path that leads to a place from the root. -/
def absolute (place : Location) : String :=
  "/" ++ String.intercalate "/" place

end Path

/-- A place and the directories above it, the nearest first and the root last. -/
def Location.ancestors (place : Location) : List Location :=
  (List.range (place.length + 1)).reverse.map place.take

end QueryLint
