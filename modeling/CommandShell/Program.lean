import CommandShell.Config
import CommandShell.Console.LineFeed
import CommandShell.Console
import CommandShell.Options
import CommandShell.Session

/-!
# The program

A whole run: options, configuration, and a session over the lines of the input.
-/

namespace CommandShell
namespace Program

def name : String := "repl-console"

def version : String := "0.4.0"

structure Launch where
  arguments : List String
  env : Arguments.Variables
  files : Files
  interactive : Bool := false

structure Result where
  output : String
  exitCode : Nat
  error : Option String := none
  usage : Option String := none
  log : List LogRecord := []
  deriving DecidableEq, Repr

def settings (options : Options) (found : Section) : Settings :=
  (found.applyOptions options).settings options.environment version

def terminal (launch : Launch) (options : Options) : Terminal :=
  Terminal.forEnvironment (launch.interactive && !options.noColor)
    (launch.env "NO_COLOR")

def surroundings (launch : Launch) (options : Options) : Surroundings String :=
  ⟨(terminal launch options).console, .endProcess⟩

def opening (launch : Launch) (options : Options) (settings : Settings) : List String :=
  if launch.interactive then
    [(terminal launch options).write (.title settings.consoleTitle)]
  else []

def usageCode : Nat := 2

def configurationFailure : String := "failed to load configuration"

def refuse : ArgumentError → Result
  | .displayHelp => { output := Options.helpText name, exitCode := 0 }
  | .displayVersion => { output := name ++ " " ++ version ++ "\n", exitCode := 0 }
  | error => { output := "", exitCode := usageCode, usage := some error.message }

/-- The options and settings of a launch, or what its run leaves without them.
The directory of the program is the one in which files are looked for. -/
def configure (launch : Launch) : Except Result (Options × Settings) :=
  match Options.parse launch.arguments launch.env with
  | .error error => .error (refuse error)
  | .ok options =>
    match Config.load launch.files "." options.config options.environment with
    | .error _ => .error { output := "", exitCode := 1, error := some configurationFailure }
    | .ok found => .ok (options, settings options found)

/-- The exit code of a session that ended so.  `exit` ends it with a code of its
own, of which eight bits count. -/
def sessionCode : Verdict → Nat
  | .done => 0
  | .failed _ => 1
  | .exited code => (code % 256).toNat

def sessionError : Verdict → Option String
  | .failed failure => some failure.outermost
  | _ => none

def serve (launch : Launch) (options : Options) (settings : Settings) (input : List Input) :
    Result :=
  let run := Session.runFrom (surroundings launch options) settings Catalog.linked false input
  { output := String.join (opening launch options settings ++ run.transcript.outputs)
    exitCode := sessionCode run.verdict
    error := sessionError run.verdict
    log := run.transcript.records }

def run (launch : Launch) (bytes : List UInt8) : Result :=
  match configure launch with
  | .error result => result
  | .ok (options, settings) => serve launch options settings (LineFeed.inputs bytes)

end Program
end CommandShell
