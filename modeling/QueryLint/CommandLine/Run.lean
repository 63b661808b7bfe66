import QueryLint.CommandLine.Check
import QueryLint.Text.Padding

/-!
# Running the program

`Program.run` does what a command line asks for. It ends with code 0, with 1 where there is an error
in a text, and with 2 where it could not do what it was asked for; then nothing is written but the
reason why. What a text says, and how a statement is shown, it leaves to a parser.
-/

namespace QueryLint.Program

/-- The line that tells the version, for the program or one of its commands. -/
def version : Option Command → String
  | none => "sqlint 0.1.0\n"
  | some command => "sqlint-" ++ command.name ++ " 0.1.0\n"

/-- What a command does, in a few words. -/
def about : Command → String
  | .check => "Lint SQL files"
  | .init => "Create a default configuration file in the current directory"
  | .rules => "List available rules"
  | .parse => "Parse SQL and print it back (for debugging)"

/-- How the program or one of its commands is called. -/
def usage : Option Command → String
  | none => "Usage: sqlint [OPTIONS] <COMMAND>"
  | some .check => "Usage: sqlint check [OPTIONS] <FILES>..."
  | some .init => "Usage: sqlint init [OPTIONS]"
  | some .rules => "Usage: sqlint rules [OPTIONS]"
  | some .parse => "Usage: sqlint parse [OPTIONS] <FILE>"

/-- What a flag is for. -/
def purpose : Flag → String
  | .verbose => "Enable verbose output"
  | .quiet => "Suppress non-error output"
  | .help => "Print help"
  | .version => "Print version"
  | .config => "Path to configuration file"
  | .dialect => "SQL dialect"
  | .format => "Output format [possible values: stylish, json]"

/-- A text in a column of the given width. -/
def column (width : Nat) (text : String) : String :=
  String.ofList (Text.pad .left ' ' width text.toList)

/-- The line of help about a flag. -/
def flagLine (flag : Flag) : String :=
  let value := if flag.takesValue then " <" ++ flag.name.toUpper ++ ">" else ""
  column 28 ("  -" ++ flag.letter.toString ++ ", --" ++ flag.name ++ value) ++ purpose flag ++ "\n"

/-- The line of help about a command. -/
def commandLine (command : Command) : String :=
  column 9 ("  " ++ command.name) ++ about command ++ "\n"

/-- The help on the program or one of its commands. -/
def help (command? : Option Command) : String :=
  let subject := match command? with
    | none => "SQL Linter - check SQL files for syntax and style issues"
    | some command => about command
  let commands := match command? with
    | none => "Commands:\n"
      ++ String.join ([Command.check, .init, .rules, .parse].map commandLine) ++ "\n"
    | some _ => ""
  subject ++ "\n\n" ++ usage command? ++ "\n\n" ++ commands ++ "Options:\n"
    ++ String.join ((Flag.allowed command?).map flagLine)

/-- The outcome of a command line that was not read to its end. -/
def stopped : Stop → Outcome
  | .help command? => { stdout := help command? }
  | .version command? => { stdout := version command? }
  | .misuse what =>
    { code := 2
      stderr := "error: " ++ what.message ++ "\n\nFor more information, try '--help'.\n" }

/-- The line about a rule in the list of rules. -/
def ruleLine (rule : Rule) : String :=
  let enabled := if (Config.standard.setting? rule.name).isSome then "on" else "off"
  "  " ++ column 16 rule.name ++ " " ++ column 8 rule.severity.name ++ " " ++ column 4 enabled
    ++ " " ++ rule.description ++ "\n"

/-- What stands above the list of rules. -/
def rulesHeading : String :=
  "Available rules:\n================\n"

/-- Lists the rules. -/
def rules : Outcome :=
  { stdout := rulesHeading ++ String.join (Registry.standard.rules.map ruleLine) }

/-- A statement written back, with its number, and with its inside where that is asked for. -/
def statementBlock (parser : Sql.Parser) (verbose : Bool) (statement : Sql.Statement)
    (number : Nat) : String :=
  "Statement " ++ toString number ++ ":\n" ++ parser.display statement ++ ";\n"
    ++ (if verbose then parser.debug statement ++ "\n" else "") ++ "\n"

/-- What is said of a text that cannot be parsed. -/
def parseComplaint (file : String) (e : ParseError) : String :=
  match e.location with
  | some range =>
    "Parse error at " ++ file ++ ":" ++ toString range.start.line ++ ":"
      ++ toString range.start.column ++ ": " ++ e.message ++ "\n"
  | none => "Parse error in " ++ file ++ ": " ++ e.message ++ "\n"

/-- Writes back the statements of a text. -/
def parseText (parser : Sql.Parser) (file : String) (verbose : Bool) (dialect : Dialect)
    (text : String) : Outcome :=
  match Sql.Script.parse dialect text parser with
  | .ok script =>
    { stdout := String.join ((script.zipIdx 1).map fun (statement, number) =>
        statementBlock parser verbose statement number) }
  | .error e => { code := 1, stderr := parseComplaint file e }

/-- The configuration file that is made. -/
def newConfig : NewFile :=
  ⟨ConfigFile.newName, ConfigFile.template⟩

/-- What is said where there is something of its name. -/
def taken : Diagnostic :=
  { message := newConfig.name ++ " already exists" }

/-- What is said once it is made. -/
def created : String :=
  "Created " ++ newConfig.name ++ " configuration file\n"

/-- Makes a configuration file, unless there is something of its name. -/
def init (isTaken quiet : Bool) : Except Diagnostic Outcome :=
  if isTaken then .error taken
  else .ok { stdout := if quiet then "" else created, newFile? := some newConfig }

variable {m : Type → Type} [Monad m] (files : Files m)

/-- Reads a file and writes back its statements. -/
def parse (parser : Sql.Parser) (file dialect : String) (verbose : Bool) :
    ExceptT Diagnostic m Outcome := do
  match Dialect.parse dialect with
  | .error message => throw { message }
  | .ok dialect =>
    match ← (files.readText file : m _) with
    | .ok text => return parseText parser file verbose dialect text
    | .error failure => throw (.ofFailure failure)

/-- Does what is asked for. -/
def answer (parser : Sql.Parser) (workplace : Location) (color : Bool) :
    Request → ExceptT Diagnostic m Outcome
  | .check options => Check.run files parser workplace color options
  | .init quiet => do
    let isTaken ← (files.exists? ConfigFile.newName : m _)
    ExceptT.mk (pure (init isTaken quiet))
  | .rules => return rules
  | .parse file dialect verbose => parse files parser file dialect verbose

/-- Runs the program at a place with arguments. -/
def run (workplace : Location) (color : Bool) (arguments : List String)
    (parser : Sql.Parser := .standard) : m Outcome :=
  match Request.ofArguments arguments with
  | .ok request => Outcome.ofExcept <$> (answer files parser workplace color request).run
  | .error stop => pure (stopped stop)

end QueryLint.Program
