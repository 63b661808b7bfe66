import QueryLint.CommandLine.Run
import QueryLint.CommandLine.System

/-!
# Carrying out a command line

`Program.perform` does what a command line asks for, one act after the other: it complains of a file
when it comes to it, and makes a file before it says so. Trouble stops it wherever it is by then.
-/

namespace QueryLint

variable {m : Type → Type} [Monad m] (system : System m) (parser : Sql.Parser)

/-- Lints a file, or complains that it cannot be read. -/
def Check.visit (config : Config) (path : String) : m (Option LintResult) := do
  match ← system.readText path with
  | .ok text => return some (lint config parser path text)
  | .error failure => do
    system.complain (complaint path failure)
    return none

/-- Lints files and prints the report on them. The answer is whether there is an error in one. -/
def Check.perform (workplace : Location) (color : Bool) (options : CheckOptions) :
    ExceptT Diagnostic m Bool := do
  let (config, paths) ← settle system.toFiles workplace options
  let visited ← (paths.mapM (visit system parser config) : m _)
  let results := visited.filterMap id
  system.print (Report.render options.format color results)
  return results.any LintResult.hasErrors

namespace Program

/-- Makes a configuration file. -/
def makeConfig (quiet : Bool) : ExceptT Diagnostic m Bool := do
  if ← (system.exists? newConfig.name : m _) then throw taken
  match ← (system.create newConfig : m _) with
  | some failure => throw (.ofFailure failure)
  | none => do
    unless quiet do system.print created
    return false

/-- Prints the list of rules. -/
def printRules : m Unit := do
  system.print rulesHeading
  Registry.standard.rules.forM fun rule => system.print (ruleLine rule)

/-- Prints the statements of a text, or complains that it cannot be parsed. The answer is whether it
complained. -/
def printText (file : String) (verbose : Bool) (dialect : Dialect) (text : String) : m Bool :=
  match Sql.Script.parse dialect text parser with
  | .ok script => do
    (script.zipIdx 1).forM fun (statement, number) =>
      system.print (statementBlock parser verbose statement number)
    return false
  | .error e => do
    system.complain (parseComplaint file e)
    return true

/-- Reads a file and prints its statements. -/
def printFile (file dialect : String) (verbose : Bool) : ExceptT Diagnostic m Bool := do
  match Dialect.parse dialect with
  | .error message => throw { message }
  | .ok dialect =>
    match ← (system.readText file : m _) with
    | .ok text => (printText system parser file verbose dialect text : m _)
    | .error failure => throw (.ofFailure failure)

/-- Does what is asked for. The answer is whether there is an error in a text. -/
def act (workplace : Location) (color : Bool) : Request → ExceptT Diagnostic m Bool
  | .check options => Check.perform system parser workplace color options
  | .init quiet => makeConfig system quiet
  | .rules => do
    (printRules system : m _)
    return false
  | .parse file dialect verbose => printFile system parser file dialect verbose

/-- Carries out a command line. The answer is the code with which the program ends. -/
def perform (workplace : Location) (color : Bool) (arguments : List String) : m Nat := do
  match Request.ofArguments arguments with
  | .ok request =>
    match ← (act system parser workplace color request).run with
    | .ok hasErrors => return if hasErrors then 1 else 0
    | .error diagnostic => do
      system.complain diagnostic.render
      return 2
  | .error stop => do
    system.print (stopped stop).stdout
    system.complain (stopped stop).stderr
    return (stopped stop).code

end Program

end QueryLint
