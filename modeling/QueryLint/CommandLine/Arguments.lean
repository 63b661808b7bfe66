import QueryLint.Report

/-!
# Arguments

A command line names a command; flags may stand before it and flags and operands behind it. A flag
is written `--name` or, by its letter, `-n`, and letters may be joined: `-qv`. A flag with a value has
it as `--name value`, `--name=value`, `-n value`, `-n=value` or `-nvalue`; a value that would be
taken for a flag can only be joined. What follows `--` are operands.

Arguments are read from left to right, and what stops the reading first decides: a mistake, or a
flag that asks for help or for the version.
-/

namespace QueryLint

/-- The commands of the program. -/
inductive Command
  | check
  | init
  | rules
  | parse
  deriving DecidableEq, Repr

namespace Command

/-- The name of a command. -/
def name : Command → String
  | check => "check"
  | init => "init"
  | rules => "rules"
  | parse => "parse"

/-- The command of a name. -/
def ofName? (word : String) : Option Command :=
  [check, init, rules, parse].find? fun command => command.name == word

end Command

/-- The flags of the program. -/
inductive Flag
  | verbose
  | quiet
  | help
  | version
  | config
  | dialect
  | format
  deriving DecidableEq, Repr

namespace Flag

/-- The long name of a flag. -/
def name : Flag → String
  | verbose => "verbose"
  | quiet => "quiet"
  | help => "help"
  | version => "version"
  | config => "config"
  | dialect => "dialect"
  | format => "format"

/-- The letter of a flag. -/
def letter : Flag → Char
  | verbose => 'v'
  | quiet => 'q'
  | help => 'h'
  | version => 'V'
  | config => 'c'
  | dialect => 'd'
  | format => 'f'

/-- Whether a flag has a value. -/
def takesValue : Flag → Bool
  | config | dialect | format => true
  | verbose | quiet | help | version => false

/-- The flags that may stand behind a command, or before there is one. -/
def allowed : Option Command → List Flag
  | some .check => [config, dialect, format, verbose, quiet, help, version]
  | some .parse => [dialect, verbose, quiet, help, version]
  | some .init | some .rules | none => [verbose, quiet, help, version]

/-- The flag of a long name. -/
def ofName? (command? : Option Command) (word : String) : Option Flag :=
  (allowed command?).find? fun flag => flag.name == word

/-- The flag of a letter. -/
def ofLetter? (command? : Option Command) (letter : Char) : Option Flag :=
  (allowed command?).find? fun flag => flag.letter == letter

end Flag

/-- What is wrong with a command line. -/
inductive Misuse
  | unexpected (word : String)
  | missingValue (flag : Flag)
  | unexpectedValue (flag : Flag) (value : String)
  | invalidValue (flag : Flag) (value : String)
  | repeated (flag : Flag)
  | emptyOperand
  | missingOperand (command : Command)
  | missingCommand
  deriving DecidableEq, Repr

/-- What is said of a command line that cannot be used. -/
def Misuse.message : Misuse → String
  | unexpected word => "unexpected argument '" ++ word ++ "' found"
  | missingValue flag => "a value is required for '--" ++ flag.name ++ "' but none was supplied"
  | unexpectedValue flag value =>
    "unexpected value '" ++ value ++ "' for '--" ++ flag.name ++ "' found; no more were expected"
  | invalidValue flag value => "invalid value '" ++ value ++ "' for '--" ++ flag.name ++ "'"
  | repeated flag => "the argument '--" ++ flag.name ++ "' cannot be used multiple times"
  | emptyOperand => "a value is required for a file but none was supplied"
  | missingOperand command =>
    "the command '" ++ command.name ++ "' requires a file but none was provided"
  | missingCommand => "'sqlint' requires a subcommand but one was not provided"

/-- Why the reading of a command line stops before its end. -/
inductive Stop
  | misuse (what : Misuse)
  | help (command? : Option Command)
  | version (command? : Option Command)
  deriving DecidableEq, Repr

/-- What `check` is asked for. -/
structure CheckOptions where
  files : List String
  config? : Option String := none
  dialect? : Option String := none
  format : Report.Format := .stylish
  deriving DecidableEq, Repr

/-- What the program is asked for. -/
inductive Request
  | check (options : CheckOptions)
  | init (quiet : Bool)
  | rules
  | parse (file dialect : String) (verbose : Bool)
  deriving DecidableEq, Repr

/-- What has been read of a command line. -/
structure Given where
  verbose : Bool := false
  quiet : Bool := false
  config? : Option String := none
  dialect? : Option String := none
  format? : Option Report.Format := none
  operands : List String := []

namespace Given

/-- Reads the name of the form of a report. -/
def formatOf? : String → Option Report.Format
  | "stylish" => some .stylish
  | "json" => some .json
  | _ => none

/-- Takes a flag without a value. -/
def raise (command? : Option Command) (flag : Flag) (given : Given) : Except Stop Given :=
  match flag with
  | .verbose => .ok { given with verbose := true }
  | .quiet =>
    if given.quiet then .error (.misuse (.repeated flag)) else .ok { given with quiet := true }
  | .help => .error (.help command?)
  | .version => .error (.version command?)
  | .config | .dialect | .format => .error (.misuse (.missingValue flag))

/-- Takes a flag with its value. -/
def set (flag : Flag) (value : String) (given : Given) : Except Stop Given :=
  match flag with
  | .config =>
    if given.config?.isSome then .error (.misuse (.repeated flag))
    else if value = "" then .error (.misuse (.missingValue flag))
    else .ok { given with config? := some value }
  | .dialect =>
    if given.dialect?.isSome then .error (.misuse (.repeated flag))
    else .ok { given with dialect? := some value }
  | .format =>
    if given.format?.isSome then .error (.misuse (.repeated flag))
    else match formatOf? value with
      | some format => .ok { given with format? := some format }
      | none => .error (.misuse (.invalidValue flag value))
  | .verbose | .quiet | .help | .version => .error (.misuse (.unexpectedValue flag value))

/-- Takes an operand. -/
def operand (command : Command) (given : Given) (word : String) : Except Stop Given :=
  match command with
  | .init | .rules => .error (.misuse (.unexpected word))
  | .parse =>
    if given.operands.isEmpty then
      if word = "" then .error (.misuse .emptyOperand)
      else .ok { given with operands := [word] }
    else .error (.misuse (.unexpected word))
  | .check =>
    if word = "" then .error (.misuse .emptyOperand)
    else .ok { given with operands := given.operands ++ [word] }

/-- Takes joined letters; the flag that is left over has its value in the next word. -/
def letters (command? : Option Command) :
    List Char → Given → Except Stop (Given × Option Flag)
  | [], given => .ok (given, none)
  | letter :: rest, given =>
    match Flag.ofLetter? command? letter with
    | none => .error (.misuse (.unexpected (String.ofList ['-', letter])))
    | some flag =>
      if flag.takesValue then
        match rest with
        | [] => .ok (given, some flag)
        | '=' :: value => (·, none) <$> given.set flag (String.ofList value)
        | value => (·, none) <$> given.set flag (String.ofList value)
      else do letters command? rest (← given.raise command? flag)

/-- Takes a long name with what follows it; the flag that is left over has its value in the next
word. -/
def long (command? : Option Command) (text : List Char) (given : Given) :
    Except Stop (Given × Option Flag) :=
  let (name, behind) := text.span (· != '=')
  match Flag.ofName? command? (String.ofList name), behind with
  | none, _ => .error (.misuse (.unexpected (String.ofList ('-' :: '-' :: name))))
  | some flag, [] =>
    if flag.takesValue then .ok (given, some flag) else (·, none) <$> given.raise command? flag
  | some flag, _ :: value => (·, none) <$> given.set flag (String.ofList value)

/-- Takes a word that is written as a flag. -/
def flag (command? : Option Command) (word : String) (given : Given) :
    Except Stop (Given × Option Flag) :=
  match word.toList with
  | '-' :: '-' :: text => given.long command? text
  | _ :: text => given.letters command? text
  | [] => .error (.misuse (.unexpected word))

end Given

namespace Request

/-- Whether a word is written as a flag; a hyphen alone is not. -/
def isFlag (word : String) : Bool :=
  match word.toList with
  | '-' :: _ :: _ => true
  | _ => false

/-- Reads what stands behind a command; a flag may be waiting for its value. -/
def words (command : Command) : Option Flag → List String → Given → Except Stop Given
  | none, [], given => .ok given
  | some flag, [], _ => .error (.misuse (.missingValue flag))
  | some flag, word :: rest, given =>
    if isFlag word then .error (.misuse (.missingValue flag))
    else do words command none rest (← given.set flag word)
  | none, word :: rest, given =>
    if word = "--" then rest.foldlM (Given.operand command) given
    else if isFlag word then do
      let (given, waiting) ← given.flag (some command) word
      words command waiting rest given
    else do words command none rest (← given.operand command word)

/-- What a command is asked for, given what stands before it and behind it. -/
def ofGiven (command : Command) (before behind : Given) : Except Stop Request :=
  match command, behind.operands with
  | .init, _ => .ok (.init (before.quiet || behind.quiet))
  | .rules, _ => .ok .rules
  | .parse, file :: _ =>
    .ok (.parse file (behind.dialect?.getD "mysql") (before.verbose || behind.verbose))
  | .check, file :: more =>
    .ok (.check ⟨file :: more, behind.config?, behind.dialect?, behind.format?.getD .stylish⟩)
  | .parse, [] | .check, [] => .error (.misuse (.missingOperand command))

/-- Why reading stops at a request for help, given what it is about. -/
def helpOn : List String → Stop
  | [] | ["help"] => .help none
  | [word] =>
    match Command.ofName? word with
    | some command => .help (some command)
    | none => .misuse (.unexpected word)
  | _ :: word :: _ => .misuse (.unexpected word)

/-- Reads a command line from its flags on. -/
def parseFrom : List String → Given → Except Stop Request
  | [], _ => .error (.misuse .missingCommand)
  | word :: rest, given =>
    if word = "--" then .error (.misuse .missingCommand)
    else if isFlag word then do
      let (given, _) ← given.flag none word
      parseFrom rest given
    else match Command.ofName? word with
      | some command => do ofGiven command given (← words command none rest {})
      | none =>
        if word = "help" then .error (helpOn rest) else .error (.misuse (.unexpected word))

/-- Reads a command line. -/
def ofArguments (arguments : List String) : Except Stop Request :=
  parseFrom arguments {}

end Request

end QueryLint
