import QueryLint.CommandLine.Diagnostic
import QueryLint.Path

/-!
# Configuration files

A configuration file goes by one of a few names and holds for the directory it is in and all below
it. The nearest directory with such a file counts, and in one directory the name that comes first. A
file that is found has to be a configuration: no other one is tried in its place.
-/

namespace QueryLint.ConfigFile

/-- The names of configuration files. -/
def names : List String := [".sqlintrc.toml", ".sqlintrc.json", "sqlint.toml"]

/-- The name of a new configuration file. -/
def newName : String := ".sqlintrc.toml"

/-- What a new configuration file holds. -/
def template : String :=
  "# sqlint configuration\n\n"
    ++ "# dialect = \"mysql\"\n\n"
    ++ "# ignorePatterns = [\"migrations/*.sql\", \"temp/*.sql\"]\n\n"
    ++ "[rules]\n"
    ++ "no-select-star = [\"warning\"]\n"
    ++ "keyword-case = [\"warning\"]\n"
    ++ "table-alias = [\"info\"]\n"

/-- The paths that a configuration file may have, for a program that runs at a place. -/
def candidates (workplace : Location) : List String :=
  workplace.ancestors.flatMap fun directory =>
    names.map fun name => Path.absolute (directory ++ [name])

variable {m : Type → Type} [Monad m] (files : Files m)

/-- The first of some paths that leads to a regular file. -/
def firstRegular? : List String → m (Option String)
  | [] => return none
  | path :: more => do
    if ← files.isRegular path then return some path else firstRegular? more

/-- The configuration file that holds at a place. -/
def find? (workplace : Location) : m (Option String) :=
  firstRegular? files (candidates workplace)

/-- The configuration in a text that was read from a path. -/
def parse (path text : String) : Except Diagnostic Config :=
  match Config.parse text (Path.extension path) with
  | .ok config => .ok config
  | .error e => .error (.ofConfigError path e)

/-- Loads the configuration file with a path. -/
def load (path : String) : ExceptT Diagnostic m Config := do
  match ← (files.readText path : m _) with
  | .ok text => ExceptT.mk (pure (parse path text))
  | .error failure => throw (.ofUnreadableConfig path failure)

/-- Loads the configuration file that holds at a place, if there is one. -/
def findAndLoad (workplace : Location) : ExceptT Diagnostic m (Option Config) := do
  match ← (find? files workplace : m _) with
  | some path => some <$> load files path
  | none => return none

end QueryLint.ConfigFile
