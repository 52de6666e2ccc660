import CommandShell.Log
import CommandShell.Settings

/-!
# Options

An option whose value has not come yet, or has come as an argument of its own, is pending:
it is settled before the next option takes effect, and its mistakes show only then.
-/

namespace CommandShell

structure Options where
  config : Option String := none
  environment : String := "Production"
  appName : Option String := none
  prompt : Option String := none
  commandSources : List String := []
  noColor : Bool := false
  logLevel : Severity := .warn
  deriving DecidableEq, Repr

/-- The section with the options put over it.  Sources count as given when there
are any. -/
def Section.applyOptions (base : Section) (options : Options) : Section :=
  { base with
    appName := options.appName <|> base.appName
    prompt := options.prompt <|> base.prompt
    commandSources :=
      if options.commandSources.isEmpty then base.commandSources
      else some options.commandSources }

def Section.settings (base : Section) (environment defaultVersion : String) :
    Settings :=
  let default : Settings := {}
  { environment := environment
    appName := base.appName.getD default.appName
    appVersion := base.appVersion.getD defaultVersion
    title := base.consoleTitle
    prompt := base.prompt.getD default.prompt
    commandSources := base.commandSources.getD default.commandSources }

/-! ## Help on the options -/

namespace Options

def helpEntries : List (String × String) :=
  [("-c, --config <FILE>", "Base configuration file (TOML or JSON)"),
    ("-e, --environment <NAME>", "Hosting environment; selects the overlay [default: Production]"),
    ("--app-name <NAME>", "Overrides the application name"),
    ("--prompt <PROMPT>", "Overrides the initial prompt"),
    ("--command-source <MODULE>", "Replaces the configured command sources (comma separated)"),
    ("--no-color", "Disables colored output"),
    ("--log-level <LEVEL>", "Least severity that is logged [default: warn]"),
    ("-h, --help", "Shows this text"),
    ("-V, --version", "Shows the version")]

def helpText (program : String) : String :=
  "An extensible command shell that reads one command per line.\n\nUsage: " ++ program ++
    " [OPTIONS]\n\nOptions:\n" ++
    String.join (helpEntries.map fun (option, purpose) =>
      "  " ++ option ++ "\n          " ++ purpose ++ "\n")

end Options

/-! ## Arguments -/

inductive ArgumentError where
  | unknownArgument
  | invalidValue
  | argumentConflict
  | tooManyValues
  | displayHelp
  | displayVersion
  deriving DecidableEq, Repr

def ArgumentError.message : ArgumentError → String
  | unknownArgument => "unexpected argument"
  | invalidValue => "invalid or missing value"
  | argumentConflict => "the argument cannot be used multiple times"
  | tooManyValues => "unexpected value for a flag"
  | displayHelp => "help requested"
  | displayVersion => "version requested"

namespace Arguments

inductive Valued where
  | config
  | environment
  | appName
  | prompt
  | commandSource
  | logLevel
  deriving DecidableEq, Repr

inductive Name where
  | valued (option : Valued)
  | noColor
  | help
  | version
  deriving DecidableEq, Repr

def longName? : String → Option Name
  | "config" => some (.valued .config)
  | "environment" => some (.valued .environment)
  | "app-name" => some (.valued .appName)
  | "prompt" => some (.valued .prompt)
  | "command-source" => some (.valued .commandSource)
  | "log-level" => some (.valued .logLevel)
  | "no-color" => some .noColor
  | "help" => some .help
  | "version" => some .version
  | _ => none

def shortName? : Char → Option Name
  | 'c' => some (.valued .config)
  | 'e' => some (.valued .environment)
  | 'h' => some .help
  | 'V' => some .version
  | _ => none

structure Given where
  config : Option String := none
  environment : Option String := none
  appName : Option String := none
  prompt : Option String := none
  commandSources : Option (List String) := none
  noColor : Bool := false
  logLevel : Option Severity := none
  deriving DecidableEq, Repr

def modules (value : String) : List String :=
  (value.toList.splitOn ',').map String.ofList

def severity? (value : String) : Option Severity :=
  Severity.all.find? fun severity => severity.levelName = value

def once {α : Type} (earlier : Option α) (value : Option α) : Except ArgumentError (Option α) :=
  if earlier.isSome then .error .argumentConflict
  else match value with
    | some value => .ok (some value)
    | none => .error .invalidValue

/-- Gives an option its value.  A second value for an option that can be given
once is noticed before a value that is not valid. -/
def Given.set (given : Given) (option : Valued) (value : String) :
    Except ArgumentError Given :=
  match option with
  | .config => do
    let path := if value.isEmpty then none else some value
    return { given with config := ← once given.config path }
  | .environment => do
    return { given with environment := ← once given.environment (some value) }
  | .appName => do
    return { given with appName := ← once given.appName (some value) }
  | .prompt => do
    return { given with prompt := ← once given.prompt (some value) }
  | .commandSource =>
    .ok { given with
      commandSources := some (given.commandSources.getD [] ++ modules value) }
  | .logLevel => do
    return { given with logLevel := ← once given.logLevel (severity? value) }

structure Reader where
  given : Given := {}
  /-- The option that is not settled yet, and its value if that has come. -/
  pending : Option (Valued × Option String) := none
  deriving DecidableEq, Repr

namespace Reader

def settle (reader : Reader) : Except ArgumentError Given :=
  match reader.pending with
  | none => .ok reader.given
  | some (_, none) => .error .invalidValue
  | some (option, some value) => reader.given.set option value

def name (reader : Reader) (name : Name) (attached : Option String) :
    Except ArgumentError Reader := do
  match name, attached with
  | .valued option, none => return { given := ← reader.settle, pending := some (option, none) }
  | .valued option, some value => return { given := ← (← reader.settle).set option value }
  | _, some _ => .error .tooManyValues
  | .noColor, none =>
    let given ← reader.settle
    if given.noColor then .error .argumentConflict
    else return { given := { given with noColor := true } }
  | .help, none =>
    let _ ← reader.settle
    .error .displayHelp
  | .version, none =>
    let _ ← reader.settle
    .error .displayVersion

def word (reader : Reader) (word : String) : Except ArgumentError Reader :=
  match reader.pending with
  | some (option, none) => .ok { reader with pending := some (option, some word) }
  | _ => .error .unknownArgument

/-- An argument with two dashes, which are left out: the name of an option, and
its value after the first equals sign. -/
def long (reader : Reader) (cs : List Char) : Except ArgumentError Reader :=
  let written := cs.takeWhile (· ≠ '=')
  let attached := match cs.dropWhile (· ≠ '=') with
    | [] => none
    | _ :: value => some (String.ofList value)
  match longName? (String.ofList written) with
  | none => .error .unknownArgument
  | some option => reader.name option attached

/-- An argument with one dash, which is left out: the letter of an option and,
if the option takes one, its value, where one equals sign may come between. -/
def short (reader : Reader) (letter : Char) (rest : List Char) :
    Except ArgumentError Reader :=
  match shortName? letter with
  | none => .error .unknownArgument
  | some (.valued option) =>
    match rest with
    | [] => reader.name (.valued option) none
    | '=' :: value => reader.name (.valued option) (some (String.ofList value))
    | value => reader.name (.valued option) (some (String.ofList value))
  | some option => reader.name option none

def argument (reader : Reader) (argument : String) : Except ArgumentError Reader :=
  match argument.toList with
  | '-' :: '-' :: cs => reader.long cs
  | '-' :: letter :: rest => reader.short letter rest
  | _ => reader.word argument

end Reader

/-- The options of all arguments.  After `--` no argument is an option, and there
is nothing else that an argument could be. -/
def read (reader : Reader) : List String → Except ArgumentError Given
  | [] => reader.settle
  | argument :: rest =>
    if argument = "--" then
      if rest.isEmpty then reader.settle else .error .unknownArgument
    else do read (← reader.argument argument) rest

abbrev Variables := String → Option String

def variableNames : List String :=
  ["REPLCLI_ENVIRONMENT", "REPLCLI_APP_NAME", "REPLCLI_PROMPT", "REPLCLI_COMMAND_SOURCES",
    "NO_COLOR"]

def falseWords : List String := ["", "n", "no", "f", "false", "off", "0"]

def isTrue (value : String) : Bool :=
  !falseWords.contains value.toLower

def Given.complete (given : Given) (env : Variables) : Options :=
  let default : Options := {}
  { config := given.config
    environment :=
      (given.environment <|> env "REPLCLI_ENVIRONMENT").getD default.environment
    appName := given.appName <|> env "REPLCLI_APP_NAME"
    prompt := given.prompt <|> env "REPLCLI_PROMPT"
    commandSources :=
      (given.commandSources <|> (env "REPLCLI_COMMAND_SOURCES").map modules).getD
        default.commandSources
    noColor := given.noColor || (env "NO_COLOR").any isTrue
    logLevel := given.logLevel.getD default.logLevel }

end Arguments

def Options.parse (arguments : List String) (env : Arguments.Variables) :
    Except ArgumentError Options := do
  return (← Arguments.read {} arguments).complete env

end CommandShell
