import QueryLint.Config.Load
import QueryLint.Files.Basic
import QueryLint.Glob.Pattern

/-!
# Diagnostics

What the program says when it cannot do what it was asked for: a message, what caused it, what can be
done about it, and the code of that kind of trouble.
-/

namespace QueryLint

/-- Why the program stops before it has done anything. -/
structure Diagnostic where
  message : String
  causes : List String := []
  help? : Option String := none
  code? : Option String := none
  deriving DecidableEq, Repr

namespace Diagnostic

/-- A diagnostic in words, with an empty line behind it. -/
def render (diagnostic : Diagnostic) : String :=
  "Error: " ++ diagnostic.message ++ "\n    Diagnostic severity: error\n"
    ++ String.join (diagnostic.causes.map fun cause => "    Caused by: " ++ cause ++ "\n")
    ++ (diagnostic.help?.map fun help => "diagnostic help: " ++ help ++ "\n").getD ""
    ++ (diagnostic.code?.map fun code => "diagnostic code: " ++ code ++ "\n").getD "" ++ "\n"

/-- The diagnostic of a file that cannot be read. -/
def ofFailure (failure : Files.Failure) : Diagnostic :=
  { message := failure.message }

/-- The diagnostic of a text that is no pattern. -/
def ofPattern (failure : Glob.Failure) : Diagnostic :=
  { message := failure.message }

/-- What is said of a configuration file that cannot be used. -/
def configMessage (path : String) : String :=
  "Failed to load config file " ++ path

/-- The diagnostic of a configuration file that cannot be read. -/
def ofUnreadableConfig (path : String) (failure : Files.Failure) : Diagnostic :=
  { message := configMessage path, causes := [failure.message] }

/-- The diagnostic of a configuration file that holds no configuration. -/
def ofConfigError (path : String) (e : ConfigError) : Diagnostic :=
  { message := configMessage path
    causes := e.message :: e.cause?.toList
    help? := some e.help
    code? := some e.code }

end Diagnostic

end QueryLint
