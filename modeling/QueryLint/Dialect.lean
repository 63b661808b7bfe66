import QueryLint.Mismatch
import QueryLint.Text.Lowercase

/-!
# Dialects

The dialects of SQL that queries may be written in. There are two readers of their names: that of
the configuration (`Dialect.ofName?`), which takes names as they are, and that of the command line
(`Dialect.parse`), which ignores case and knows one name more.
-/

namespace QueryLint

/-- A dialect of SQL. -/
inductive Dialect
  | postgres
  | mysql
  | sqlite
  | generic
  deriving DecidableEq, Repr, Inhabited

namespace Dialect

/-- The dialect that holds where none is named. -/
def standard : Dialect := mysql

/-- The name under which a configuration holds a dialect. -/
def configName : Dialect → String
  | postgres => "postgresql"
  | mysql => "mysql"
  | sqlite => "sqlite"
  | generic => "generic"

/-- The name that is shown. -/
def displayName : Dialect → String
  | postgres => "postgresql"
  | mysql => "mysql"
  | sqlite => "sqlite"
  | generic => "generic"

/-- The names that a configuration may use, with their dialects. -/
def configNames : List (String × Dialect) :=
  [("pg", postgres), ("postgres", postgres), ("postgresql", postgres), ("mysql", mysql),
    ("mysql8", mysql), ("sqlite", sqlite), ("generic", generic)]

/-- The dialect that a configuration names. -/
def ofName? (name : String) : Option Dialect :=
  configNames.lookup name

/-- What is said of a name that a configuration may not use. -/
def unknownVariant (name : String) : Mismatch :=
  .variant name (configNames.map Prod.fst)

/-- What is said of a name that the command line does not know. -/
def unknown (name : String) : String :=
  "Unknown dialect: '" ++ name
    ++ "'. Supported dialects: postgresql, mysql, sqlite, generic."

/-- The dialect named in lower case. -/
def ofLowerName? (name : String) : Option Dialect :=
  if name = "postgresql" || name = "postgres" || name = "pg" then some postgres
  else if name = "mysql" || name = "mysql8" then some mysql
  else if name = "sqlite" then some sqlite
  else if name = "generic" || name = "ansi" then some generic
  else none

/-- Reads the name of a dialect, whatever the case of its letters. -/
def parse (name : String) : Except String Dialect :=
  match ofLowerName? (String.ofList (Text.lowercase name.toList)) with
  | some dialect => .ok dialect
  | none => .error (unknown name)

end Dialect

end QueryLint
