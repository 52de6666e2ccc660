import CommandShell.Run
import CommandShell.Settings
import CommandShell.Text

/-!
# Commands

A command works by a script: it performs one action after another and chooses each in
view of the state that the last one left.
-/

namespace CommandShell

section

inductive Action where
  | call (call : Call)
  | reportToken
  /-- Gives way once, which leaves no trace. -/
  | yield
  | cancel
  | setPrompt (prompt : String)
  | remember (memory : String)
  | exit (code : Int)
  | fail (failure : Failure)
  | log (record : LogRecord)
  deriving DecidableEq, Repr

def Action.reportArguments (args : List String) : Action :=
  .call (.writeLine (Text.jsonArray args))

inductive Script where
  | done
  | step (action : Action) (next : State → Script)

variable {Output : Type}

def State.tokenText (state : State) : String :=
  if state.cancelled then "cancelled" else "active"

def Action.run (around : Surroundings Output) (state : State) : Action → Run Output
  | .call request => around.call request state
  | .reportToken => around.call (.writeLine state.tokenText) state
  | .yield => .idle state
  | .cancel => ⟨[.cancelled], { state with cancelled := true }, .done⟩
  | .setPrompt prompt => .idle { state with prompt := prompt }
  | .remember memory => .idle { state with memory := memory }
  | .exit code => around.exit code state
  | .fail failure => ⟨[], state, .failed failure⟩
  | .log record => .note [.logged record] state

namespace Script

def ofActions : List Action → Script
  | [] => .done
  | action :: rest => .step action fun _ => ofActions rest

instance : Coe (List Action) Script := ⟨ofActions⟩

def run (around : Surroundings Output) : Script → State → Run Output
  | .done, state => .idle state
  | .step action next, state =>
    (action.run around state).andThen fun state => run around (next state) state

@[simp] theorem run_done (around : Surroundings Output) (state : State) :
    run around .done state = .idle state := rfl

@[simp] theorem run_step (around : Surroundings Output) (action : Action)
    (next : State → Script) (state : State) :
    run around (.step action next) state =
      (action.run around state).andThen fun state => run around (next state) state := rfl

end Script

end

structure Handler where
  name : String
  description : String
  script : List String → Script

namespace Handler

variable {Output : Type}

/-- Runs the command, after a record of which command is being handled. -/
def invoke (around : Surroundings Output) (handler : Handler) (args : List String)
    (state : State) : Run Output :=
  (Run.note [.logged (.handling handler.name)] state).andThen
    ((handler.script args).run around)

end Handler

/-! ## Built-in commands -/

namespace Builtin

def clear : Handler where
  name := "cls"
  description := "Clears the Console Screen."
  script := fun _ => .ofActions [.call .clear]

def successCode : Int := 0

def exit (settings : Settings) : Handler where
  name := "exit"
  description := "Exits " ++ settings.appName ++ "."
  script := fun _ => .ofActions
    [.call (.writeLine "Bye..."), .log (.exiting successCode), .exit successCode]

def greeting (args : List String) : String :=
  "Hello: " ++ String.intercalate ", " args

def hello : Handler where
  name := "hello"
  description := "Prints a nice greeting."
  script := fun args => .ofActions [.call (.writeLine (greeting args)), .log .greeted]

def handlers (settings : Settings) : List Handler :=
  [clear, exit settings, hello]

end Builtin

/-! ## The prompt command -/

namespace Prompt

def description : String :=
  "Changes the prompt displayed in the console.\n\n    prompt <newPrompt>\n\n" ++
    "    newPrompt: The new prompt to be displayed."

def invalidArguments : String :=
  "\nInvalid number of arguments.  Please provide a prompt.\n"

def ofArgument (argument : String) : String :=
  Text.trim argument ++ " "

def script : List String → Script
  | [argument] => .ofActions
    [.log (.promptChanged (ofArgument argument)), .setPrompt (ofArgument argument)]
  | _ => .ofActions [.call (.error invalidArguments)]

def handler : Handler where
  name := "prompt"
  description := description
  script := script

end Prompt

end CommandShell
