import CommandShell.CommandLine
import CommandShell.Console
import CommandShell.Log

/-!
# Runs

A run is what a part of the shell did: its transcript, the state that it left and how it
ended.
-/

namespace CommandShell

structure Failure where
  outermost : String
  causes : List String
  deriving DecidableEq, Repr

namespace Failure

def chain (failure : Failure) : List String :=
  failure.outermost :: failure.causes

def message (failure : Failure) : String :=
  String.intercalate ": " failure.chain

def ofMessages : List String → Failure
  | [] => ⟨"", []⟩
  | outermost :: causes => ⟨outermost, causes⟩

end Failure

/-! ## Transcripts -/

inductive Entry (Output : Type) where
  | shown (output : Output)
  | logged (record : LogRecord)
  | read (input : Option Input)
  | dispatched (line : CommandLine)
  | exit (code : Int)
  | cancelled
  deriving DecidableEq, Repr

abbrev Transcript (Output : Type) := List (Entry Output)

namespace Entry

variable {Output : Type}

@[simp] def shown? : Entry Output → Option Output
  | shown output => some output
  | _ => none

@[simp] def logged? : Entry Output → Option LogRecord
  | logged record => some record
  | _ => none

@[simp] def read? : Entry Output → Option (Option Input)
  | read input => some input
  | _ => none

@[simp] def dispatched? : Entry Output → Option CommandLine
  | dispatched line => some line
  | _ => none

@[simp] def exit? : Entry Output → Option Int
  | exit code => some code
  | _ => none

end Entry

namespace Transcript

variable {Output : Type}

def outputs (transcript : Transcript Output) : List Output :=
  transcript.filterMap Entry.shown?

def records (transcript : Transcript Output) : List LogRecord :=
  transcript.filterMap Entry.logged?

def inputs (transcript : Transcript Output) : List (Option Input) :=
  transcript.filterMap Entry.read?

def dispatches (transcript : Transcript Output) : List CommandLine :=
  transcript.filterMap Entry.dispatched?

def exitCodes (transcript : Transcript Output) : List Int :=
  transcript.filterMap Entry.exit?

@[simp] theorem outputs_append (first second : Transcript Output) :
    outputs (first ++ second) = outputs first ++ outputs second :=
  List.filterMap_append

@[simp] theorem records_append (first second : Transcript Output) :
    records (first ++ second) = records first ++ records second :=
  List.filterMap_append

@[simp] theorem inputs_append (first second : Transcript Output) :
    inputs (first ++ second) = inputs first ++ inputs second :=
  List.filterMap_append

@[simp] theorem dispatches_append (first second : Transcript Output) :
    dispatches (first ++ second) = dispatches first ++ dispatches second :=
  List.filterMap_append

@[simp] theorem exitCodes_append (first second : Transcript Output) :
    exitCodes (first ++ second) = exitCodes first ++ exitCodes second :=
  List.filterMap_append

@[simp] theorem outputs_nil : outputs ([] : Transcript Output) = [] := rfl

@[simp] theorem records_nil : records ([] : Transcript Output) = [] := rfl

@[simp] theorem inputs_nil : inputs ([] : Transcript Output) = [] := rfl

@[simp] theorem dispatches_nil : dispatches ([] : Transcript Output) = [] := rfl

@[simp] theorem exitCodes_nil : exitCodes ([] : Transcript Output) = [] := rfl

@[simp] theorem outputs_cons (entry : Entry Output) (rest : Transcript Output) :
    outputs (entry :: rest) = entry.shown?.toList ++ outputs rest := by
  cases entry <;> rfl

@[simp] theorem records_cons (entry : Entry Output) (rest : Transcript Output) :
    records (entry :: rest) = entry.logged?.toList ++ records rest := by
  cases entry <;> rfl

@[simp] theorem inputs_cons (entry : Entry Output) (rest : Transcript Output) :
    inputs (entry :: rest) = entry.read?.toList ++ inputs rest := by
  cases entry <;> rfl

@[simp] theorem dispatches_cons (entry : Entry Output) (rest : Transcript Output) :
    dispatches (entry :: rest) = entry.dispatched?.toList ++ dispatches rest := by
  cases entry <;> rfl

@[simp] theorem exitCodes_cons (entry : Entry Output) (rest : Transcript Output) :
    exitCodes (entry :: rest) = entry.exit?.toList ++ exitCodes rest := by
  cases entry <;> rfl

theorem filterMap_map_logged {View : Type} {view : Entry Output → Option View}
    (hlogged : ∀ record, view (.logged record) = none) (log : List LogRecord) :
    (log.map .logged).filterMap view = [] := by
  simp [List.filterMap_map, hlogged]

@[simp] theorem outputs_map_logged (log : List LogRecord) :
    outputs (log.map .logged : Transcript Output) = [] :=
  filterMap_map_logged (fun _ => rfl) log

@[simp] theorem inputs_map_logged (log : List LogRecord) :
    inputs (log.map .logged : Transcript Output) = [] :=
  filterMap_map_logged (fun _ => rfl) log

@[simp] theorem dispatches_map_logged (log : List LogRecord) :
    dispatches (log.map .logged : Transcript Output) = [] :=
  filterMap_map_logged (fun _ => rfl) log

@[simp] theorem exitCodes_map_logged (log : List LogRecord) :
    exitCodes (log.map .logged : Transcript Output) = [] :=
  filterMap_map_logged (fun _ => rfl) log

@[simp] theorem records_map_logged (log : List LogRecord) :
    records (log.map .logged : Transcript Output) = log := by
  induction log with
  | nil => rfl
  | cons record log ih => simp [ih]

end Transcript

/-! ## Runs -/

/-- What commands can change: the prompt, the cancellation of the token, and what
they keep for themselves from one run to the next. -/
structure State where
  prompt : String
  cancelled : Bool := false
  memory : String := ""
  deriving DecidableEq, Repr

inductive Verdict where
  | done
  | failed (failure : Failure)
  /-- The process has ended with this exit code. -/
  | exited (code : Int)
  deriving DecidableEq, Repr

structure Run (Output : Type) where
  transcript : Transcript Output
  state : State
  verdict : Verdict
  deriving DecidableEq, Repr

namespace Run

variable {Output : Type}

def idle (state : State) : Run Output :=
  ⟨[], state, .done⟩

def note (entries : Transcript Output) (state : State) : Run Output :=
  ⟨entries, state, .done⟩

/-- The second run starts where the first ended, if the first ended well. -/
def andThen (first : Run Output) (second : State → Run Output) : Run Output :=
  match first.verdict with
  | .done =>
    let next := second first.state
    ⟨first.transcript ++ next.transcript, next.state, next.verdict⟩
  | _ => first

@[simp] theorem idle_andThen (state : State) (second : State → Run Output) :
    (idle state).andThen second = second state := by
  simp [idle, andThen]

@[simp] theorem andThen_idle (first : Run Output) :
    first.andThen idle = first := by
  rcases first with ⟨transcript, state, verdict⟩
  cases verdict <;> simp [andThen, idle]

end Run

inductive ExitPolicy where
  | cancelToken
  | keepToken
  | endProcess
  deriving DecidableEq, Repr

/-- What a command works with: the console it writes to and the host that it
can ask to exit. -/
structure Surroundings (Output : Type) where
  console : Console Output
  exitPolicy : ExitPolicy

namespace Surroundings

variable {Output : Type} (around : Surroundings Output)

def call (call : Call) (state : State) : Run Output :=
  .note [.shown (around.console.render call)] state

def calls (calls : List Call) (state : State) : Run Output :=
  .note (calls.map fun call => .shown (around.console.render call)) state

def exit (code : Int) (state : State) : Run Output :=
  match around.exitPolicy with
  | .cancelToken => ⟨[.exit code, .cancelled], { state with cancelled := true }, .done⟩
  | .keepToken => ⟨[.exit code], state, .done⟩
  | .endProcess =>
    ⟨[.logged (.exitRequested code), .exit code, .cancelled],
      { state with cancelled := true }, .exited code⟩

end Surroundings

end CommandShell
