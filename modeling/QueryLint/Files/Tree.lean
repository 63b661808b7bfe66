import QueryLint.Files.Basic
import QueryLint.Path

/-!
# File trees

The files of a machine as a value. A path is followed name by name from where it starts: every name
on the way has to be that of a directory, `..` leads back and is possible even at the root.
-/

namespace QueryLint

/-- A file with its bytes, or a directory with what is in it, each under a name of its own. -/
inductive FileTree
  | file (content : ByteArray)
  | directory (entries : List (String × FileTree))

namespace FileTree

/-- The tree without files. -/
def empty : FileTree := .directory []

/-- What stands under a name in a tree. -/
def child? : FileTree → String → Option FileTree
  | .file _, _ => none
  | .directory entries, name => entries.lookup name

/-- What stands at a place in a tree. -/
def get? : FileTree → Location → Option FileTree
  | tree, [] => some tree
  | tree, name :: rest => do (← tree.child? name).get? rest

/-- Puts something under a name among others, in place of what was there. -/
def replace (name : String) (tree : FileTree) :
    List (String × FileTree) → List (String × FileTree)
  | [] => [(name, tree)]
  | (other, present) :: more =>
    if other = name then (name, tree) :: more else (other, present) :: replace name tree more

/-- Puts something at a place in a tree; the directories on the way are made where there are none. -/
def put : FileTree → Location → FileTree → FileTree
  | _, [], new => new
  | tree, name :: rest, new =>
    let entries := match tree with
      | .file _ => []
      | .directory entries => entries
    .directory (replace name (((entries.lookup name).getD empty).put rest new) entries)

/-- Follows names from a place in a tree. -/
def walk (tree : FileTree) : Location → List String → Except Files.Failure Location
  | here, [] => .ok here
  | here, name :: rest =>
    match tree.get? here with
    | some (.directory entries) =>
      if name = "" || name = "." then walk tree here rest
      else if name = ".." then walk tree here.dropLast rest
      else if (entries.lookup name).isSome then walk tree (here ++ [name]) rest
      else .error .missing
    | some (.file _) => .error .notDirectory
    | none => .error .missing

/-- What a path leads to in a tree, for a program that runs at a place in it. -/
def resolve (tree : FileTree) (workplace : Location) (path : String) :
    Except Files.Failure FileTree := do
  if path = "" then throw .missing
  let place ← tree.walk (if Path.isAbsolute path then [] else workplace) (Path.names path)
  match tree.get? place with
  | some found => return found
  | none => throw .missing

/-- The kind of a tree. -/
def kind : FileTree → Files.Kind
  | .file _ => .regular
  | .directory _ => .directory

/-- The answers that a program gets which runs at a place in a tree. -/
def files (tree : FileTree) (workplace : Location) : Files Id where
  kind? path := pure <| (tree.resolve workplace path).toOption.map kind
  names? path := pure <|
    match tree.resolve workplace path with
    | .ok (.directory entries) => some (entries.map Prod.fst)
    | _ => none
  read path := pure <|
    match tree.resolve workplace path with
    | .ok (.file content) => .ok content
    | .ok (.directory _) => .error .isDirectory
    | .error failure => .error failure

end FileTree

end QueryLint
