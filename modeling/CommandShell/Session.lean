import CommandShell.Registry
import CommandShell.Table

/-!
# Sessions

A session asks for a line and dispatches it, until the token is cancelled, input ends or a
read fails.  At the end of input it runs `exit`.
-/

namespace CommandShell

structure Shell where
  appName : String
  table : Table

namespace Shell

/-- The names that always list the commands and are never looked up. -/
def reservedNames : List String := ["help", "?"]

def helpTitle (appName : String) : String :=
  appName ++ " - Command Line Help"

def helpHeader (appName : String) : String :=
  "\n" ++ helpTitle appName ++ "\n" ++
    String.ofList (List.replicate (helpTitle appName).length '-') ++ "\n"

def helpEntry (handler : Handler) : List Call :=
  [.writeLine handler.name, .writeLine ("  " ++ handler.description ++ "\n")]

def help (shell : Shell) : List Call :=
  .writeLine (helpHeader shell.appName) :: shell.table.handlers.flatMap helpEntry

def unknown (command : String) : List Call :=
  [.writeColored "\nError: Unknown Command '" Color.firebrick,
    .writeColored command Color.mediumSlateBlue,
    .writeLineColored "'\n" Color.firebrick]

variable {Output : Type}

def dispatch (shell : Shell) (around : Surroundings Output) (line : CommandLine)
    (state : State) : Run Output :=
  if line.command ∈ reservedNames then around.calls shell.help state
  else match shell.table.get? line.command with
    | none =>
      (Run.note [.logged (.unknownCommand line.command)] state).andThen
        (around.calls (unknown line.command))
    | some handler => handler.invoke around line.args state

/-- The runs of command lines one after another, each with a token of its own that
is cancelled or not.  All else goes from one run to the next. -/
def dispatchFrom (shell : Shell) (around : Surroundings Output) :
    List (CommandLine × Bool) → State → List (Run Output)
  | [], _ => []
  | (line, cancelled) :: rest, state =>
    let run := shell.dispatch around line { state with cancelled := cancelled }
    run :: shell.dispatchFrom around rest run.state

def dispatchEach (shell : Shell) (around : Surroundings Output)
    (lines : List (CommandLine × Bool)) (prompt : String) : List (Run Output) :=
  shell.dispatchFrom around lines { prompt := prompt }

end Shell

/-! ## Sessions -/

structure Session (Output : Type) where
  around : Surroundings Output
  settings : Settings
  shell : Shell

namespace Session

variable {Output : Type} (session : Session Output)

def exitLine : CommandLine := ⟨"exit", []⟩

def readFailure (message : String) : Failure :=
  ⟨"failed to read command line", [message]⟩

def initialState (cancelled : Bool) : State :=
  { prompt := session.settings.prompt, cancelled := cancelled }

/-- What becomes of a command that failed: a record and an error on the console. -/
def report (line : CommandLine) (run : Run Output) : Run Output :=
  match run.verdict with
  | .failed failure =>
    { run with
      transcript := run.transcript ++
        [.logged (.commandFailed line.command failure.message),
          .shown (session.around.console.render (.error failure.message))]
      verdict := .done }
  | _ => run

def execute (line : CommandLine) (state : State) : Run Output :=
  (Run.note [.dispatched line] state).andThen fun state =>
    session.report line (session.shell.dispatch session.around line state)

def ask (state : State) : Run Output :=
  session.around.call (.write state.prompt) state

/-- What follows from the input that was read, where none is the end of
input. -/
def receive (input : Option Input) (state : State) : Run Output :=
  (Run.note [.read input] state).andThen fun state =>
    match input with
    | none =>
      (session.around.call (.writeLine "") state).andThen (session.execute exitLine)
    | some .interrupt => ⟨[.cancelled], { state with cancelled := true }, .done⟩
    | some (.failure message) => ⟨[], state, .failed (readFailure message)⟩
    | some (.line text) =>
      match CommandLine.parse? text with
      | none => .idle state
      | some line => session.execute line state

def turn (input : Option Input) (state : State) : Run Output :=
  (session.ask state).andThen (session.receive input)

def loop : List Input → State → Run Output
  | [], state =>
    if state.cancelled then .idle state else session.turn none state
  | input :: rest, state =>
    if state.cancelled then .idle state
    else (session.turn (some input) state).andThen (loop rest)

@[simp] theorem loop_of_cancelled (input : List Input) {state : State}
    (h : state.cancelled = true) : session.loop input state = .idle state := by
  cases input <;> simp [loop, h]

def start (state : State) : Run Output :=
  (Run.note [.logged .sessionStarted] state).andThen
    (session.around.call (.writeLine session.settings.banner))

def closing : Verdict → List LogRecord
  | .done => [.sessionStopping, .sessionStopped]
  | .failed failure => [.sessionStopping, .sessionFailed failure.message, .sessionStopped]
  | .exited _ => []

/-- Closes a session.  A process that has ended says nothing more. -/
def finish (run : Run Output) : Run Output :=
  { run with transcript := run.transcript ++ (closing run.verdict).map .logged }

def run (input : List Input) (state : State) : Run Output :=
  finish ((session.start state).andThen (session.loop input))

end Session

def Session.prepare {Output : Type} (around : Surroundings Output) (settings : Settings)
    (catalog : Catalog) : Session Output × List LogRecord :=
  let registry := Registry.loadAll { settings := settings, catalog := catalog }
  (⟨around, settings, ⟨settings.appName, registry.table⟩⟩,
    registry.log ++ [.tableBuilt registry.table.size])

/-- A session in a world of its own: prepared, and run from a token that is
cancelled or not.  The transcript begins with the records of loading. -/
def Session.runFrom {Output : Type} (around : Surroundings Output) (settings : Settings)
    (catalog : Catalog) (cancelled : Bool) (input : List Input) : Run Output :=
  let (session, log) := Session.prepare around settings catalog
  (Run.note (log.map .logged) (session.initialState cancelled)).andThen
    (session.run input)

end CommandShell
