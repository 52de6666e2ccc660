import CommandShell.Proofs.Program.Dispatch
import CommandShell.Proofs.Session.Course

/-!
# Two ways to exit

A session leaves the same, but for its log, whether an exit ends the process or cancels the
token: where the process lives on, nothing follows the exit either.
-/

namespace CommandShell

variable {Output : Type}

def Entry.isEvent : Entry Output → Bool
  | .logged _ => false
  | _ => true

def Transcript.events (transcript : Transcript Output) : Transcript Output :=
  transcript.filter Entry.isEvent

namespace Transcript

@[simp] theorem events_append (first second : Transcript Output) :
    events (first ++ second) = events first ++ events second :=
  List.filter_append first second

@[simp] theorem events_map_logged (log : List LogRecord) :
    events (log.map .logged : Transcript Output) = [] := by
  rw [events, List.filter_eq_nil_iff]
  intro entry hmem
  obtain ⟨record, _, rfl⟩ := List.mem_map.mp hmem
  simp [Entry.isEvent]

theorem filterMap_events {View : Type} {view : Entry Output → Option View}
    (hlogged : ∀ record, view (.logged record) = none) (transcript : Transcript Output) :
    transcript.events.filterMap view = transcript.filterMap view := by
  rw [events, List.filterMap_filter]
  congr 1
  funext entry
  cases entry with
  | logged record => simp [Entry.isEvent, hlogged]
  | _ => rfl

theorem outputs_events (transcript : Transcript Output) :
    transcript.events.outputs = transcript.outputs :=
  filterMap_events (fun _ => rfl) transcript

end Transcript

def Verdict.outlived : Verdict → Verdict
  | .exited _ => .done
  | verdict => verdict

theorem Verdict.eq_failed_of_outlived {verdict : Verdict} {failure : Failure}
    (hfailed : verdict.outlived = .failed failure) : verdict = .failed failure := by
  cases verdict with
  | exited code => simp [outlived] at hfailed
  | done => exact hfailed
  | failed other => exact hfailed

/-- The first run is the second one where an exit does not end the process: the same
happens and the same state is left, and if the second run ends the process then the
first has noted the same code last and cancelled the token. -/
structure Run.Outlives (survivor ended : Run Output) : Prop where
  events : survivor.transcript.events = ended.transcript.events
  state : survivor.state = ended.state
  verdict : survivor.verdict = ended.verdict.outlived
  exit : ∀ code, ended.verdict = .exited code →
    survivor.state.cancelled = true ∧ survivor.transcript.exitCodes.getLast? = some code

theorem Run.Outlives.outputs {survivor ended : Run Output}
    (hrun : survivor.Outlives ended) :
    survivor.transcript.outputs = ended.transcript.outputs := by
  rw [← Transcript.outputs_events, hrun.events, Transcript.outputs_events]

theorem Run.Outlives.of_same {run : Run Output}
    (hverdict : ∀ code, run.verdict ≠ .exited code) : run.Outlives run := by
  constructor
  · rfl
  · rfl
  · cases hcase : run.verdict with
    | exited code => exact (hverdict code hcase).elim
    | _ => rfl
  · intro code hcode
    exact (hverdict code hcode).elim

/-- What follows an exit must be idle, for where the process has ended nothing
follows. -/
theorem Run.Outlives.andThen {survivor ended : Run Output}
    {second secondEnded : State → Run Output} (hfirst : survivor.Outlives ended)
    (hsecond : ∀ next, (second next).Outlives (secondEnded next))
    (hidle : ∀ code, ended.verdict = .exited code →
      second survivor.state = .idle survivor.state) :
    (survivor.andThen second).Outlives (ended.andThen secondEnded) := by
  obtain ⟨transcript, state, verdict⟩ := survivor
  obtain ⟨endedTranscript, endedState, endedVerdict⟩ := ended
  have hevents : transcript.events = endedTranscript.events := hfirst.events
  have hstate : state = endedState := hfirst.state
  have hverdict : verdict = endedVerdict.outlived := hfirst.verdict
  subst hstate hverdict
  cases endedVerdict with
  | failed failure => exact hfirst
  | exited code =>
      -- the ended process adds nothing, so the survivor must not either
      have hnothing : second state = .idle state := hidle code rfl
      have hsurvivor : (Run.mk transcript state .done).andThen second =
          ⟨transcript, state, .done⟩ := by
        simp [Run.andThen, hnothing, Run.idle]
      rw [Verdict.outlived, hsurvivor]
      exact hfirst
  | done =>
      have hnext := hsecond state
      constructor
      · simp [Verdict.outlived, Run.andThen, hevents, hnext.events]
      · exact hnext.state
      · exact hnext.verdict
      · intro code hcode
        obtain ⟨hcancelled, hlast⟩ := hnext.exit code hcode
        refine ⟨hcancelled, ?_⟩
        simp [Verdict.outlived, Run.andThen, List.getLast?_append, hlast]

theorem Run.Outlives.same_andThen {first : Run Output}
    {second secondEnded : State → Run Output}
    (hverdict : ∀ code, first.verdict ≠ .exited code)
    (hsecond : ∀ next, (second next).Outlives (secondEnded next)) :
    (first.andThen second).Outlives (first.andThen secondEnded) :=
  (Run.Outlives.of_same hverdict).andThen hsecond fun code hcode =>
    (hverdict code hcode).elim

/-! ## Scripts in which nothing follows an exit -/

/-- A script goes no further once it has asked to exit. -/
inductive Script.ExitsLast : Script → Prop
  | done : ExitsLast .done
  | exit (code : Int) {next : State → Script} :
      (∀ state, next state = .done) → ExitsLast (.step (.exit code) next)
  | step {action : Action} {next : State → Script} :
      (∀ code, action ≠ .exit code) → (∀ state, ExitsLast (next state)) →
      ExitsLast (.step action next)

theorem Script.ExitsLast.ofActions {actions : List Action}
    (hactions : ∀ action ∈ actions.dropLast, ∀ code, action ≠ .exit code) :
    (Script.ofActions actions).ExitsLast := by
  induction actions with
  | nil => exact .done
  | cons action rest ih =>
      cases rest with
      | nil =>
          by_cases hexit : ∃ code, action = .exit code
          · obtain ⟨code, rfl⟩ := hexit
            exact .exit code fun _ => rfl
          · exact .step (fun code hcode => hexit ⟨code, hcode⟩) fun _ => .done
      | cons next rest =>
          rw [List.dropLast_cons_cons, List.forall_mem_cons] at hactions
          exact .step hactions.1 fun _ => ih hactions.2

theorem Program.script_exitsLast {settings : Settings} {handler : Handler}
    (hhandler : handler ∈ Program.commands settings) (args : List String) :
    (handler.script args).ExitsLast := by
  rcases Program.mem_commands_iff.mp hhandler with rfl | rfl | rfl | rfl
  · exact .ofActions (by simp)
  · exact .ofActions (by simp)
  · exact .ofActions (by simp)
  · match args with
    | [] => exact .ofActions (by simp)
    | [argument] => exact .ofActions (by simp)
    | first :: second :: rest => exact .ofActions (by simp)

section Hosts

variable (console : Console Output)

theorem Action.run_eq_of_ne_exit {action : Action} (haction : ∀ code, action ≠ .exit code)
    (policy other : ExitPolicy) (state : State) :
    action.run ⟨console, policy⟩ state = action.run ⟨console, other⟩ state := by
  cases action with
  | exit code => exact (haction code rfl).elim
  | _ => rfl

theorem Action.verdict_run_of_ne_exit {action : Action}
    (haction : ∀ code, action ≠ .exit code) (policy : ExitPolicy) (state : State) :
    ∀ code, (action.run ⟨console, policy⟩ state).verdict ≠ .exited code := by
  cases action with
  | exit code => exact (haction code rfl).elim
  | _ => simp [Action.run, Surroundings.call, Run.note, Run.idle]

theorem Surroundings.exit_outlives (code : Int) (state : State) :
    (exit ⟨console, .cancelToken⟩ code state).Outlives
      (exit ⟨console, .endProcess⟩ code state) := by
  constructor
  · rfl
  · rfl
  · rfl
  · intro other hother
    have hcode : code = other := Verdict.exited.inj hother
    exact ⟨rfl, congrArg some hcode⟩

theorem Script.run_outlives {script : Script} (hscript : script.ExitsLast)
    (state : State) :
    (script.run ⟨console, .cancelToken⟩ state).Outlives
      (script.run ⟨console, .endProcess⟩ state) := by
  induction hscript generalizing state with
  | done => exact .of_same (by simp [Run.idle])
  | @exit code next hnext =>
      have hdone : ∀ (policy : ExitPolicy) (after : State),
          (next after).run ⟨console, policy⟩ after = .idle after := by
        intro policy after
        rw [hnext, run_done]
      rw [run_step, run_step]
      refine (Surroundings.exit_outlives console code state).andThen ?_ ?_
      · intro after
        rw [hdone, hdone]
        exact .of_same (by simp [Run.idle])
      · intro _ _
        exact hdone .cancelToken _
  | @step action next haction _ ih =>
      rw [run_step, run_step,
        action.run_eq_of_ne_exit console haction .cancelToken .endProcess]
      refine .same_andThen ?_ fun after => ih after after
      exact Action.verdict_run_of_ne_exit console haction .endProcess state

theorem Shell.dispatch_outlives {shell : Shell}
    (hscripts : ∀ handler ∈ shell.table.handlers, ∀ args,
      (handler.script args).ExitsLast) (line : CommandLine) (state : State) :
    (shell.dispatch ⟨console, .cancelToken⟩ line state).Outlives
      (shell.dispatch ⟨console, .endProcess⟩ line state) := by
  unfold Shell.dispatch
  split
  · exact .of_same (by simp [Surroundings.calls, Run.note])
  · cases hfound : shell.table.get? line.command with
    | none =>
        exact .of_same (by simp [Surroundings.calls, Run.note, Run.andThen])
    | some handler =>
        have hscript := hscripts handler (List.mem_of_find?_eq_some hfound) line.args
        refine .same_andThen (by simp [Run.note]) ?_
        exact fun next => Script.run_outlives console hscript next

end Hosts

/-! ## Sessions -/

namespace Session

def under (session : Session Output) (policy : ExitPolicy) : Session Output :=
  { session with around := ⟨session.around.console, policy⟩ }

variable {session : Session Output}

theorem report_outlives {survivor ended : Run Output} (hrun : survivor.Outlives ended)
    (line : CommandLine) :
    ((session.under .cancelToken).report line survivor).Outlives
      ((session.under .endProcess).report line ended) := by
  have hverdict := hrun.verdict
  cases hcase : ended.verdict with
  | done =>
      simp only [hcase, Verdict.outlived] at hverdict
      simpa only [report, hverdict, hcase] using hrun
  | exited code =>
      simp only [hcase, Verdict.outlived] at hverdict
      simpa only [report, hverdict, hcase] using hrun
  | failed failure =>
      simp only [hcase, Verdict.outlived] at hverdict
      simp only [report, hverdict, hcase]
      constructor
      · rw [Transcript.events_append, Transcript.events_append, hrun.events]
        rfl
      · exact hrun.state
      · rfl
      · simp

variable (session) in
def ExitsLast : Prop :=
  ∀ handler ∈ session.shell.table.handlers, ∀ args, (handler.script args).ExitsLast

theorem ExitsLast.execute (hsession : session.ExitsLast) (line : CommandLine)
    (state : State) :
    ((session.under .cancelToken).execute line state).Outlives
      ((session.under .endProcess).execute line state) := by
  refine .same_andThen (by simp [Run.note]) ?_
  intro next
  exact report_outlives
    (Shell.dispatch_outlives session.around.console hsession line next) line

theorem ExitsLast.turn (hsession : session.ExitsLast) (input : Option Input)
    (state : State) :
    ((session.under .cancelToken).turn input state).Outlives
      ((session.under .endProcess).turn input state) := by
  refine .same_andThen (by simp [ask, Surroundings.call, Run.note]) ?_
  intro asked
  refine .same_andThen (by simp [Run.note]) ?_
  intro next
  cases input with
  | none =>
      refine .same_andThen (by simp [Surroundings.call, Run.note]) ?_
      exact hsession.execute exitLine
  | some input =>
      cases input with
      | interrupt => exact .of_same (by simp)
      | failure message => exact .of_same (by simp)
      | line text =>
          cases hline : CommandLine.parse? text with
          | none =>
              simp only [hline]
              exact .of_same (by simp [Run.idle])
          | some line =>
              simp only [hline]
              exact hsession.execute line next

theorem ExitsLast.loop (hsession : session.ExitsLast) (inputs : List Input)
    (state : State) :
    ((session.under .cancelToken).loop inputs state).Outlives
      ((session.under .endProcess).loop inputs state) := by
  have hidle : (Run.idle state : Run Output).Outlives (.idle state) :=
    .of_same (by simp [Run.idle])
  induction inputs generalizing state with
  | nil =>
      rw [Session.loop, Session.loop]
      split
      · exact hidle
      · exact hsession.turn none state
  | cons input rest ih =>
      have hturn := hsession.turn (some input) state
      rw [Session.loop, Session.loop]
      split
      · exact hidle
      · -- after an exit the token is cancelled, and the survivor takes no turn either
        refine hturn.andThen (fun next => ih next (.of_same (by simp [Run.idle]))) ?_
        intro code hcode
        exact (session.under .cancelToken).loop_of_cancelled rest
          (hturn.exit code hcode).1

theorem enclose_outlives {survivor ended : Run Output} (hrun : survivor.Outlives ended)
    (log : List LogRecord) :
    ((session.under .cancelToken).enclose log survivor).Outlives
      ((session.under .endProcess).enclose log ended) := by
  have hpreface : (session.under .cancelToken).preface log =
      (session.under .endProcess).preface log := rfl
  constructor
  · simp [enclose, hpreface, hrun.events]
  · exact hrun.state
  · exact hrun.verdict
  · intro code hcode
    obtain ⟨hcancelled, hlast⟩ := hrun.exit code hcode
    refine ⟨hcancelled, ?_⟩
    simp [enclose, List.getLast?_append, hlast]

/-- A session of scripts that exit last leaves the same whether an exit ends the process
or cancels the token. -/
theorem runFrom_outlives (console : Console Output) (settings : Settings)
    {catalog : Catalog}
    (hsession : (prepare ⟨console, .endProcess⟩ settings catalog).1.ExitsLast)
    (cancelled : Bool) (inputs : List Input) :
    (runFrom ⟨console, .cancelToken⟩ settings catalog cancelled inputs).Outlives
      (runFrom ⟨console, .endProcess⟩ settings catalog cancelled inputs) := by
  have hloop := hsession.loop inputs ((prepare ⟨console, .endProcess⟩ settings
    catalog).1.initialState cancelled)
  rw [runFrom_eq, runFrom_eq]
  exact @enclose_outlives _ (prepare ⟨console, .endProcess⟩ settings catalog).1 _ _ hloop _

theorem prepare_linked_exitsLast (around : Surroundings Output) (settings : Settings) :
    (prepare around settings Catalog.linked).1.ExitsLast := by
  intro handler hmem args
  exact Program.script_exitsLast (mem_commands_of_mem_handlers around settings hmem) args

end Session
end CommandShell
