import CommandShell.Program

/-!
# The command line

Each turn of the session is shown before the next line is read.
-/

namespace CommandShell
namespace Main

def readNode (path : String) : IO Node := do
  try
    return .file (← IO.FS.readBinFile path).toList
  catch error =>
    match error with
    | .noFileOrDirectory .. => return .absent
    | .permissionDenied .. => return .unreadable
    | _ => return .directory

def readFiles (paths : List String) : IO Files := do
  let nodes ← paths.mapM fun path => return (path, ← readNode path)
  return fun path => (nodes.lookup path).getD .absent

def readVariables : IO Arguments.Variables := do
  let values ← Arguments.variableNames.mapM fun name => return (name, ← IO.getEnv name)
  return fun name => (values.lookup name).join

partial def readPiece (input : IO.FS.Stream) (read : List UInt8) : IO (List UInt8) := do
  match (← input.read 1).toList with
  | [] => return read.reverse
  | byte :: _ =>
    if byte = LineFeed.newline then return (byte :: read).reverse
    else readPiece input (byte :: read)

def logLine (record : LogRecord) : String :=
  let value : FieldValue → String
    | .text text => Text.quoted text
    | .number number => toString number
  record.severity.name ++ " " ++ record.message ++
    String.join (record.fields.map fun (name, field) => " " ++ name ++ "=" ++ value field)

def showRun (level : Severity) (run : Run String) : IO Unit := do
  let output ← IO.getStdout
  for entry in run.transcript do
    match entry with
    | .shown text => output.putStr text
    | .logged record =>
      if level.weight ≤ record.severity.weight then IO.eprintln (logLine record)
    | _ => pure ()
  output.flush

partial def converse (level : Severity) (session : Session String) (input : IO.FS.Stream)
    (state : State) : IO (Run String) := do
  if state.cancelled then return .idle state
  let asked := session.ask state
  showRun level asked
  let next := (LineFeed.deliver (← readPiece input [])).input?
  let answered := session.receive next asked.state
  showRun level answered
  match answered.verdict, next with
  | .done, some _ => converse level session input answered.state
  | verdict, _ => return ⟨[], answered.state, verdict⟩

def serve (launch : Program.Launch) (options : Options) (settings : Settings) : IO Nat := do
  let level := options.logLevel
  let (session, log) :=
    Session.prepare (Program.surroundings launch options) settings Catalog.linked
  let state := session.initialState false
  showRun level (.note ((Program.opening launch options settings).map .shown) state)
  showRun level (.note (log.map .logged) state)
  let opened := session.start state
  showRun level opened
  let ended ← converse level session (← IO.getStdin) opened.state
  showRun level (Session.finish ended)
  if let some message := Program.sessionError ended.verdict then
    IO.eprintln ("Error: " ++ message)
  return Program.sessionCode ended.verdict

def configurationFiles (arguments : List String) (env : Arguments.Variables) :
    IO Files := do
  match Options.parse arguments env with
  | .error _ => return fun _ => .absent
  | .ok options => readFiles (Config.candidates "." options.config options.environment)

end Main
end CommandShell

open CommandShell in
/-- Runs the program with the given arguments. -/
def main (arguments : List String) : IO UInt32 := do
  let env ← Main.readVariables
  let launch : Program.Launch :=
    { arguments := arguments
      env := env
      files := ← Main.configurationFiles arguments env
      interactive := ← (← IO.getStdout).isTty }
  match Program.configure launch with
  | .error result =>
    IO.print result.output
    if let some message := result.usage then IO.eprintln ("error: " ++ message)
    if let some message := result.error then IO.eprintln ("Error: " ++ message)
    return UInt32.ofNat result.exitCode
  | .ok (options, settings) => return UInt32.ofNat (← Main.serve launch options settings)
