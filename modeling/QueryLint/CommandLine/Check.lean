import QueryLint.CommandLine.Arguments
import QueryLint.CommandLine.ConfigFile
import QueryLint.CommandLine.Outcome
import QueryLint.Glob.Expand
import QueryLint.Linter

/-!
# Checking files

`check` lints the files that its arguments name, each on its own. First everything is settled that
can stop the run: the configuration, the dialect, the patterns of files to pass over and the list of
paths. A file that cannot be read then costs one line of complaint and is missing in the report.

A run may also keep a log of what it does, on the output for complaints; its lines are no part of the
outcomes here.
-/

namespace QueryLint.Check

/-- The configuration with the dialect of the command line, if one is named there. -/
def withDialect (config : Config) : Option String → Except Diagnostic Config
  | none => .ok config
  | some name =>
    match Dialect.parse name with
    | .ok dialect => .ok (config.withDialect dialect)
    | .error message => .error { message }

/-- The patterns of files that a configuration passes over. -/
def ignored (config : Config) : Except Diagnostic (List Glob.Pattern) :=
  config.ignorePatterns.mapM fun text =>
    match Glob.Pattern.parse text with
    | .ok pattern => .ok pattern
    | .error failure => .error (.ofPattern failure)

/-- The paths without those that some pattern stands for. -/
def keep (patterns : List Glob.Pattern) (paths : List String) : List String :=
  paths.filter fun path => !patterns.any fun pattern => pattern.matchesText path

/-- The result of linting the text of a path. -/
def lint (config : Config) (parser : Sql.Parser) (path text : String) : LintResult :=
  Linter.lint config Registry.standard { filename := path, text } parser

/-- The results of the files that could be read. -/
def results (config : Config) (parser : Sql.Parser)
    (readings : List (String × Except Files.Failure String)) : List LintResult :=
  readings.filterMap fun
    | (path, .ok text) => some (lint config parser path text)
    | (_, .error _) => none

/-- What is said of a file that cannot be read. -/
def complaint (path : String) (failure : Files.Failure) : String :=
  "Error reading file " ++ path ++ ": " ++ failure.message ++ "\n"

/-- The complaints about the files that could not be read. -/
def complaints (readings : List (String × Except Files.Failure String)) : List String :=
  readings.filterMap fun
    | (_, .ok _) => none
    | (path, .error failure) => some (complaint path failure)

/-- The outcome, given what reading the files has brought. -/
def outcome (config : Config) (parser : Sql.Parser) (format : Report.Format) (color : Bool)
    (readings : List (String × Except Files.Failure String)) : Outcome :=
  let results := results config parser readings
  { code := if results.any LintResult.hasErrors then 1 else 0
    stdout := Report.render format color results
    stderr := String.join (complaints readings) }

variable {m : Type → Type} [Monad m] (files : Files m)

/-- The configuration of a run. -/
def configuration (workplace : Location) (options : CheckOptions) :
    ExceptT Diagnostic m Config := do
  let config ← match options.config? with
    | some path => ConfigFile.load files path
    | none => (·.getD Config.standard) <$> ConfigFile.findAndLoad files workplace
  ExceptT.mk (pure (withDialect config options.dialect?))

/-- The paths that one argument names: those that a pattern stands for, or the argument itself. -/
def paths (argument : String) : ExceptT Diagnostic m (List String) :=
  if Glob.hasWildcards argument then
    match Glob.PathPattern.parse argument with
    | .ok pattern => (Glob.expand files pattern : m _)
    | .error failure => throw (.ofPattern failure)
  else return [argument]

/-- Settles what can stop a run: the configuration, and the paths, at least one of which is left. -/
def settle (workplace : Location) (options : CheckOptions) :
    ExceptT Diagnostic m (Config × List String) := do
  let config ← configuration files workplace options
  let patterns ← ExceptT.mk (pure (ignored config))
  let found ← options.files.mapM (paths files)
  let kept := keep patterns found.flatten
  if kept.isEmpty then throw { message := "No SQL files matched the given patterns" }
  return (config, kept)

/-- Reads a file, along with its path. -/
def reading (path : String) : m (String × Except Files.Failure String) :=
  return (path, ← files.readText path)

/-- Lints files. -/
def run (parser : Sql.Parser) (workplace : Location) (color : Bool) (options : CheckOptions) :
    ExceptT Diagnostic m Outcome := do
  let (config, paths) ← settle files workplace options
  let readings ← (paths.mapM (reading files) : m _)
  return outcome config parser options.format color readings

end QueryLint.Check
