import CommandShell.Proofs.Registry.Loading
import CommandShell.Proofs.Session.FailureReports
import CommandShell.Proofs.Session.ReadFailure
import CommandShell.Proofs.Shell

/-!
# The log as an audit trail

The trail of a dispatch is a function of the line and of the state in which it is
dispatched, and the log of a session is made of these trails.
-/

namespace CommandShell

variable {Output : Type} {around : Surroundings Output}

/-- A script that logs nothing of its own. -/
def Script.Silent : Script → Prop
  | .done => True
  | .step action next => (∀ record, action ≠ .log record) ∧ ∀ state, (next state).Silent

/-- What a host that ends the process logs itself when it is asked to exit. -/
def Verdict.exitRecords : Verdict → List LogRecord
  | .exited code => [.exitRequested code]
  | _ => []

theorem Run.records_andThen {first : Run Output} {second : State → Run Output}
    (hfirst : first.transcript.records = first.verdict.exitRecords)
    (hsecond : ∀ state,
      (second state).transcript.records = (second state).verdict.exitRecords) :
    (first.andThen second).transcript.records =
      (first.andThen second).verdict.exitRecords := by
  obtain ⟨transcript, state, verdict⟩ := first
  cases verdict with
  | done =>
      rw [Run.andThen_done, Transcript.records_append, hfirst, hsecond]
      rfl
  | failed failure => exact hfirst
  | exited code => exact hfirst

theorem Surroundings.records_exit (code : Int) (state : State) :
    (around.exit code state).transcript.records =
      (around.exit code state).verdict.exitRecords := by
  unfold Surroundings.exit
  cases around.exitPolicy <;> rfl

theorem Action.records_run {action : Action} (haction : ∀ record, action ≠ .log record)
    (state : State) :
    (action.run around state).transcript.records =
      (action.run around state).verdict.exitRecords := by
  cases action with
  | log record => exact (haction record rfl).elim
  | exit code => exact Surroundings.records_exit code state
  | _ => rfl

theorem Script.records_run_of_silent {script : Script} (hsilent : script.Silent)
    (state : State) :
    (script.run around state).transcript.records =
      (script.run around state).verdict.exitRecords := by
  induction script generalizing state with
  | done => rfl
  | step action next ih =>
      rw [Script.run_step]
      apply Run.records_andThen
      · exact Action.records_run hsilent.1 state
      · intro after
        exact ih after (hsilent.2 after) after

/-! ## Processes that have ended -/

/-- A run that has ended the process stops there. -/
def Run.StopsAtExit (run : Run Output) : Prop :=
  ∀ code, run.verdict = .exited code → ∃ before : Transcript Output,
    run.transcript = before ++ [.logged (.exitRequested code), .exit code, .cancelled]

theorem Run.StopsAtExit.of_ne_exited {run : Run Output}
    (hverdict : ∀ code, run.verdict ≠ .exited code) : run.StopsAtExit :=
  fun code hexited => absurd hexited (hverdict code)

theorem Run.StopsAtExit.note (entries : Transcript Output) (state : State) :
    (Run.note entries state).StopsAtExit :=
  .of_ne_exited (by simp [Run.note])

theorem Run.StopsAtExit.andThen {first : Run Output} {second : State → Run Output}
    (hfirst : first.StopsAtExit) (hsecond : ∀ state, (second state).StopsAtExit) :
    (first.andThen second).StopsAtExit := by
  obtain ⟨transcript, state, verdict⟩ := first
  cases verdict with
  | done =>
      intro code hexited
      rw [Run.andThen_done] at hexited ⊢
      obtain ⟨before, hbefore⟩ := hsecond state code hexited
      exact ⟨transcript ++ before, by simp [hbefore]⟩
  | failed failure => exact hfirst
  | exited code => exact hfirst

theorem Action.stopsAtExit_run (action : Action) (state : State) :
    (action.run around state).StopsAtExit := by
  cases action with
  | exit code =>
      unfold Action.run Surroundings.exit
      cases around.exitPolicy with
      | cancelToken => exact .of_ne_exited (by simp)
      | keepToken => exact .of_ne_exited (by simp)
      | endProcess =>
          rintro other ⟨rfl⟩
          exact ⟨[], rfl⟩
  | fail failure => exact .of_ne_exited (by simp [Action.run])
  | cancel => exact .of_ne_exited (by simp [Action.run])
  | _ => exact .note _ _

theorem Script.stopsAtExit_run (script : Script) (state : State) :
    (script.run around state).StopsAtExit := by
  induction script generalizing state with
  | done => exact .note [] state
  | step action next ih =>
      rw [Script.run_step]
      exact (Action.stopsAtExit_run action state).andThen fun after => ih after after

theorem Shell.stopsAtExit_dispatch (shell : Shell) (around : Surroundings Output)
    (line : CommandLine) (state : State) :
    (shell.dispatch around line state).StopsAtExit := by
  unfold Shell.dispatch
  split
  · exact .note _ state
  · split
    · exact Run.StopsAtExit.andThen (.note _ state) fun after => .note _ after
    · exact Run.StopsAtExit.andThen (.note _ state) (Script.stopsAtExit_run _)

namespace LogRecord

def dispatched? : LogRecord → Option String
  | handling command => some command
  | unknownCommand command => some command
  | _ => none

def failure? : LogRecord → Option (Option String × String)
  | commandFailed command error => some (some command, error)
  | sessionFailed error => some (none, error)
  | _ => none

/-- A record that says nothing of dispatches and failures. -/
def Aside (record : LogRecord) : Prop :=
  record.dispatched? = none ∧ record.failure? = none

theorem OfLoading.aside {record : LogRecord} (hrecord : record.OfLoading) :
    record.Aside := by
  cases record with
  | addingCommand command => exact ⟨rfl, rfl⟩
  | commandRegistered command => exact ⟨rfl, rfl⟩
  | commandReplaced command => exact ⟨rfl, rfl⟩
  | sourceLoaded source count => exact ⟨rfl, rfl⟩
  | sourceFailed source error => exact ⟨rfl, rfl⟩
  | _ => exact hrecord.elim

theorem filterMap_dispatched?_of_aside {log : List LogRecord}
    (hlog : ∀ record ∈ log, record.Aside) : log.filterMap dispatched? = [] :=
  List.filterMap_eq_nil_iff.mpr fun record hmem => (hlog record hmem).1

theorem filterMap_failure?_of_aside {log : List LogRecord}
    (hlog : ∀ record ∈ log, record.Aside) : log.filterMap failure? = [] :=
  List.filterMap_eq_nil_iff.mpr fun record hmem => (hlog record hmem).2

end LogRecord

theorem Verdict.aside_of_mem_exitRecords (verdict : Verdict) :
    ∀ record ∈ verdict.exitRecords, record.Aside := by
  cases verdict with
  | exited code => exact List.forall_mem_singleton.mpr ⟨rfl, rfl⟩
  | done => simp [exitRecords]
  | failed failure => simp [exitRecords]

theorem Builtin.aside_of_mem_records {settings : Settings} {handler : Handler}
    (hbuiltin : handler ∈ Builtin.handlers settings) (args : List String) (state : State) :
    ∀ record ∈ ((handler.script args).run around state).transcript.records,
      record.Aside := by
  simp only [Builtin.handlers, List.mem_cons, List.not_mem_nil, or_false] at hbuiltin
  rcases hbuiltin with rfl | rfl | rfl
  · have hnone : (((clear.script args).run around state).transcript).records = [] := rfl
    simp [hnone]
  · have hexiting : (((exit settings).script args).run around state).transcript.records =
        .exiting successCode :: (around.exit successCode state).verdict.exitRecords := by
      rw [← Surroundings.records_exit]
      simp [exit, Script.ofActions, Action.run, Surroundings.call, Run.note,
        Run.andThen_done]
    rw [hexiting]
    exact List.forall_mem_cons.mpr ⟨⟨rfl, rfl⟩, Verdict.aside_of_mem_exitRecords _⟩
  · have hgreeted : ((hello.script args).run around state).transcript.records =
        [.greeted] := rfl
    simp [hgreeted, LogRecord.Aside, LogRecord.dispatched?, LogRecord.failure?]

namespace Session

variable (session : Session Output)

/-! ## The trail of a dispatch -/

/-- The records of dispatching a line in a state: none for a reserved name, one for a name
without a handler; and for any other name one before all that its handler logs, and one
after it if the handler fails. -/
def trail (line : CommandLine) (state : State) : List LogRecord :=
  if line.command ∈ ["help", "?"] then []
  else match session.shell.table.get? line.command with
    | none => [.unknownCommand line.command]
    | some handler =>
      let ran := (handler.script line.args).run session.around state
      .handling line.command :: ran.transcript.records ++
        (ran.verdict.failure?.map fun failure => LogRecord.commandFailed line.command
          (String.intercalate ": " failure.chain)).toList

theorem trail_reserved {line : CommandLine} (state : State)
    (hreserved : line.command ∈ ["help", "?"]) : session.trail line state = [] :=
  if_pos hreserved

theorem trail_unknown {line : CommandLine} (state : State)
    (hreserved : line.command ∉ ["help", "?"])
    (hnone : session.shell.table.get? line.command = none) :
    session.trail line state = [.unknownCommand line.command] := by
  rw [trail, if_neg hreserved, hnone]

theorem trail_handler {line : CommandLine} {handler : Handler} (state : State)
    (hreserved : line.command ∉ ["help", "?"])
    (hfound : session.shell.table.get? line.command = some handler) :
    let ran := (handler.script line.args).run session.around state
    session.trail line state =
      .handling line.command :: (ran.transcript.records ++
        (ran.verdict.failure?.map fun failure => LogRecord.commandFailed line.command
          (String.intercalate ": " failure.chain)).toList) := by
  rw [trail, if_neg hreserved, hfound]
  rfl

def steps : State → List CommandLine → List (CommandLine × State)
  | _, [] => []
  | state, line :: rest =>
    (line, state) :: steps (session.shell.dispatch session.around line state).state rest

theorem trail_eq (line : CommandLine) (state : State) :
    let ran := session.shell.dispatch session.around line state
    session.trail line state =
      ran.transcript.records ++
        (ran.verdict.failure?.map fun failure => LogRecord.commandFailed line.command
          (String.intercalate ": " failure.chain)).toList := by
  intro ran
  by_cases hreserved : line.command ∈ ["help", "?"]
  · rw [session.trail_reserved state hreserved]
    simp only [ran, Shell.dispatch_reserved _ _ state hreserved]
    simp [Route.run, Verdict.failure?, Transcript.records]
  · cases hfound : session.shell.table.get? line.command with
    | none =>
        rw [session.trail_unknown state hreserved hfound]
        simp only [ran, Shell.dispatch_unknown _ state hreserved hfound]
        rfl
    | some handler =>
        have hname : handler.name = line.command := by
          simpa using List.find?_some hfound
        rw [session.trail_handler state hreserved hfound]
        simp only [ran, Shell.dispatch_handler _ state hreserved hfound]
        simp [Route.run, hname]

theorem records_failureEntries (line : CommandLine) (verdict : Verdict) :
    (session.failureEntries line verdict).records =
      (verdict.failure?.map fun failure => LogRecord.commandFailed line.command
        (String.intercalate ": " failure.chain)).toList := by
  cases verdict <;> rfl

theorem records_episode (line : CommandLine) (state : State) :
    (session.episode line state).records = session.trail line state := by
  rw [trail_eq, ← session.records_failureEntries line]
  simp [episode]

theorem records_loop (inputs : List Input) (state : State) :
    (session.loop inputs state).transcript.records =
      (session.steps state (session.loop inputs state).transcript.dispatches).flatMap
        fun step => session.trail step.1 step.2 := by
  induction inputs generalizing state with
  | nil =>
      rw [loop, turn_none]
      split
      · rfl
      · rw [dispatches_lastExchange, lastExchange_eq]
        simp [records_episode, reading, steps]
  | cons input rest ih =>
      rw [loop, turn_some]
      split
      · rfl
      · cases input with
        | failure message => rfl
        | interrupt =>
            simp only [verdictAfter, Run.andThen_done]
            rw [session.loop_of_cancelled rest rfl]
            rfl
        | line text =>
            cases hline : CommandLine.parse? text with
            | none =>
                simp only [verdictAfter, stateAfter, hline, Run.andThen_done,
                  exchange_blank session state hline, Transcript.records_append,
                  Transcript.dispatches_append, dispatches_reading, List.nil_append, ← ih]
                rfl
            | some line =>
                have hrecords : (session.exchange state (.line text)).records =
                    session.trail line state := by
                  rw [exchange_line session state hline, Transcript.records_append,
                    records_episode]
                  rfl
                have hdispatches : (session.exchange state (.line text)).dispatches =
                    [line] := by
                  rw [dispatches_exchange, Input.commandLine?, hline]
                  rfl
                simp only [verdictAfter, stateAfter, hline]
                cases (session.shell.dispatch session.around line state).verdict.reported with
                | done =>
                    simp [Run.andThen_done, hrecords, hdispatches, steps, ← ih]
                | failed failure => simp [Run.andThen, hrecords, hdispatches, steps]
                | exited code => simp [Run.andThen, hrecords, hdispatches, steps]

/-! ## Reading the trails -/

/-- A session whose handlers log nothing that could be taken for a trail. -/
def Discreet : Prop :=
  ∀ handler ∈ session.shell.table.handlers, ∀ args state,
    ∀ record ∈ ((handler.script args).run session.around state).transcript.records,
      record.Aside

variable {session}

theorem Discreet.filterMap_dispatched?_trail (hsession : session.Discreet)
    (line : CommandLine) (state : State) :
    (session.trail line state).filterMap LogRecord.dispatched? =
      [line.command].filter (· ∉ ["help", "?"]) := by
  by_cases hreserved : line.command ∈ ["help", "?"]
  · rw [session.trail_reserved state hreserved,
      List.filter_cons_of_neg (by simpa only [decide_not, Bool.not_eq_true',
        decide_eq_false_iff_not, not_not] using hreserved)]
    rfl
  · rw [List.filter_cons_of_pos (by simpa using hreserved)]
    cases hfound : session.shell.table.get? line.command with
    | none =>
        rw [session.trail_unknown state hreserved hfound]
        rfl
    | some handler =>
        have hown := LogRecord.filterMap_dispatched?_of_aside
          (hsession handler (List.mem_of_find?_eq_some hfound) line.args state)
        have hfirst : LogRecord.dispatched? (.handling line.command) =
            some line.command := rfl
        rw [session.trail_handler state hreserved hfound, List.filterMap_cons_some hfirst,
          List.filterMap_append, hown, List.nil_append]
        cases ((handler.script line.args).run session.around state).verdict <;> rfl

theorem Discreet.failure?_of_mem_dispatch (hsession : session.Discreet)
    (line : CommandLine) (state : State) :
    ∀ record ∈ (session.shell.dispatch session.around line state).transcript.records,
      record.failure? = none := by
  intro record hmem
  by_cases hreserved : line.command ∈ ["help", "?"]
  · rw [Shell.dispatch_reserved _ _ state hreserved] at hmem
    simp [Route.run, Transcript.records] at hmem
  · cases hfound : session.shell.table.get? line.command with
    | none =>
        rw [Shell.dispatch_unknown _ state hreserved hfound] at hmem
        have hunknown : record = .unknownCommand line.command := by
          simpa [Route.run] using hmem
        rw [hunknown]
        rfl
    | some handler =>
        rw [Shell.dispatch_handler _ state hreserved hfound] at hmem
        have hcases : record = .handling handler.name ∨ record ∈
            ((handler.script line.args).run session.around state).transcript.records := by
          simpa [Route.run] using hmem
        rcases hcases with rfl | hown
        · rfl
        · exact (hsession handler (List.mem_of_find?_eq_some hfound) line.args state
            record hown).2

variable (session) in
def failureOf (line : CommandLine) (state : State) : Option (String × String) :=
  (session.shell.dispatch session.around line state).verdict.failure?.map fun failure =>
    (line.command, String.intercalate ": " failure.chain)

theorem Discreet.filterMap_failure?_trail (hsession : session.Discreet)
    (line : CommandLine) (state : State) :
    (session.trail line state).filterMap LogRecord.failure? =
      ((session.failureOf line state).map fun failure =>
        (some failure.1, failure.2)).toList := by
  rw [trail_eq, List.filterMap_append,
    List.filterMap_eq_nil_iff.mpr (hsession.failure?_of_mem_dispatch line state),
    List.nil_append, failureOf]
  cases (session.shell.dispatch session.around line state).verdict <;> rfl

theorem Discreet.filterMap_dispatched?_steps (hsession : session.Discreet)
    (state : State) (lines : List CommandLine) :
    ((session.steps state lines).flatMap fun step =>
        session.trail step.1 step.2).filterMap LogRecord.dispatched? =
      (lines.map CommandLine.command).filter (· ∉ ["help", "?"]) := by
  induction lines generalizing state with
  | nil => rfl
  | cons line rest ih =>
      rw [steps, List.flatMap_cons, List.filterMap_append, ih,
        hsession.filterMap_dispatched?_trail, ← List.filter_append]
      rfl

theorem Discreet.filterMap_failure?_steps (hsession : session.Discreet)
    (steps : List (CommandLine × State)) :
    (steps.flatMap fun step => session.trail step.1 step.2).filterMap LogRecord.failure? =
      (steps.filterMap fun step => session.failureOf step.1 step.2).map
        fun failure => (some failure.1, failure.2) := by
  induction steps with
  | nil => rfl
  | cons step rest ih =>
      rw [List.flatMap_cons, List.filterMap_append, ih, hsession.filterMap_failure?_trail,
        List.filterMap_cons]
      cases session.failureOf step.1 step.2 <;> rfl

end Session

/-! ## Reports on the console -/

/-- Every record of a command that failed stands directly before the error with the same
text on the console. -/
def Transcript.ShowsFailures (console : Console Output) (transcript : Transcript Output) :
    Prop :=
  ∀ before command error after,
    transcript = before ++ .logged (.commandFailed command error) :: after →
    ∃ rest, after = .shown (console.render (.error error)) :: rest

section ShowsFailures

variable {console : Console Output}

theorem Transcript.ShowsFailures.of_none {transcript : Transcript Output}
    (hnone : ∀ command error, .commandFailed command error ∉ transcript.records) :
    transcript.ShowsFailures console := by
  rintro before command error after rfl
  exact (hnone command error (by simp)).elim

theorem Transcript.ShowsFailures.append {first second : Transcript Output}
    (hfirst : first.ShowsFailures console) (hsecond : second.ShowsFailures console) :
    Transcript.ShowsFailures console (first ++ second) := by
  intro before command error after hsplit
  rcases List.append_eq_append_iff.mp hsplit with
    ⟨between, _, hrest⟩ | ⟨between, hleft, hright⟩
  · exact hsecond between command error after hrest
  · cases between with
    | nil => exact hsecond [] command error after hright.symm
    | cons entry between =>
        rw [List.cons_append, List.cons.injEq] at hright
        obtain ⟨rfl, rfl⟩ := hright
        obtain ⟨rest, rfl⟩ := hfirst before command error between hleft
        exact ⟨rest ++ second, rfl⟩

end ShowsFailures

namespace Session

variable {session : Session Output}

theorem showsFailures_failureEntries (line : CommandLine) (verdict : Verdict) :
    (session.failureEntries line verdict).ShowsFailures session.around.console := by
  cases verdict with
  | done => exact .of_none (by simp [failureEntries])
  | exited code => exact .of_none (by simp [failureEntries])
  | failed failure =>
      intro before command error after hsplit
      rw [failureEntries] at hsplit
      rcases before with _ | ⟨first, _ | ⟨second, others⟩⟩
      · simp only [List.nil_append, List.cons.injEq, Entry.logged.injEq,
          LogRecord.commandFailed.injEq] at hsplit
        obtain ⟨⟨rfl, rfl⟩, rfl⟩ := hsplit
        exact ⟨[], rfl⟩
      · simp at hsplit
      · simp at hsplit

theorem Discreet.commandFailed_not_mem_dispatch (hsession : session.Discreet)
    (line : CommandLine) (state : State) (command error : String) :
    .commandFailed command error ∉
      (session.shell.dispatch session.around line state).transcript.records := by
  intro hmem
  have hnone := hsession.failure?_of_mem_dispatch line state _ hmem
  simp [LogRecord.failure?] at hnone

theorem Discreet.showsFailures_episode (hsession : session.Discreet) (line : CommandLine)
    (state : State) : (session.episode line state).ShowsFailures session.around.console := by
  have hran : Transcript.ShowsFailures session.around.console
      (.dispatched line :: (session.shell.dispatch session.around line state).transcript) :=
    .of_none (by simpa using hsession.commandFailed_not_mem_dispatch line state)
  exact hran.append (session.showsFailures_failureEntries line _)

theorem showsFailures_reading (state : State) (input : Option Input) :
    (session.reading state input).ShowsFailures session.around.console :=
  .of_none (by simp [reading])

theorem Discreet.showsFailures_exchange (hsession : session.Discreet) (state : State)
    (input : Input) :
    (session.exchange state input).ShowsFailures session.around.console := by
  cases input with
  | failure message => exact showsFailures_reading state _
  | interrupt => exact .of_none (by simp [exchange])
  | line text =>
      cases hline : CommandLine.parse? text with
      | none =>
          rw [exchange_blank session state hline]
          exact showsFailures_reading state _
      | some line =>
          rw [exchange_line session state hline]
          exact (showsFailures_reading state _).append
            (hsession.showsFailures_episode line state)

theorem Discreet.showsFailures_account (hsession : session.Discreet) (state : State)
    (inputs : List Input) :
    (session.account state inputs).ShowsFailures session.around.console := by
  induction inputs generalizing state with
  | nil => exact .of_none (by simp [account])
  | cons input rest ih =>
      exact (hsession.showsFailures_exchange state input).append (ih _)

theorem Discreet.showsFailures_loop (hsession : session.Discreet) (inputs : List Input)
    (state : State) :
    (session.loop inputs state).transcript.ShowsFailures session.around.console := by
  obtain ⟨handled, rest, ended, _, _, _, _, hloop⟩ := session.loop_handles inputs state
  have haccount := hsession.showsFailures_account state handled
  rw [hloop]
  cases ended with
  | false => exact haccount.append (.of_none (by simp))
  | true =>
      refine haccount.append ?_
      have hopening : Transcript.ShowsFailures session.around.console
          (session.reading (session.after state handled) none ++
            [.shown (session.around.console.render (.writeLine ""))]) :=
        .of_none (by simp [reading])
      exact hopening.append (hsession.showsFailures_episode exitLine _)

variable (session) in
theorem stopsAtExit_execute (line : CommandLine) (state : State) :
    (session.execute line state).StopsAtExit := by
  apply Run.StopsAtExit.andThen (.note _ state)
  intro state
  have hran := session.shell.stopsAtExit_dispatch session.around line state
  unfold report
  split
  · exact .of_ne_exited (by simp)
  · exact hran

variable (session) in
theorem stopsAtExit_turn (input : Option Input) (state : State) :
    (session.turn input state).StopsAtExit := by
  apply Run.StopsAtExit.andThen (.note _ state)
  intro state
  apply Run.StopsAtExit.andThen (.note _ state)
  intro state
  match input with
  | none =>
      exact Run.StopsAtExit.andThen (.note _ state) (session.stopsAtExit_execute exitLine)
  | some .interrupt => exact .of_ne_exited (by simp)
  | some (.failure message) => exact .of_ne_exited (by simp)
  | some (.line text) =>
      cases hline : CommandLine.parse? text with
      | none =>
          simp only [hline]
          exact .note [] state
      | some line =>
          simp only [hline]
          exact session.stopsAtExit_execute line state

variable (session) in
theorem stopsAtExit_loop (inputs : List Input) (state : State) :
    (session.loop inputs state).StopsAtExit := by
  induction inputs generalizing state with
  | nil =>
      rw [loop]
      split
      · exact .note [] state
      · exact session.stopsAtExit_turn none state
  | cons input rest ih =>
      rw [loop]
      split
      · exact .note [] state
      · exact (session.stopsAtExit_turn (some input) state).andThen ih

/-! ## Whole sessions -/

theorem records_enclose (log : List LogRecord) (run : Run Output) :
    (session.enclose log run).transcript.records =
      log ++ .sessionStarted :: (run.transcript.records ++ closing run.verdict) := by
  simp [enclose, preface]

theorem showsFailures_enclose {log : List LogRecord} {run : Run Output}
    (hrun : run.transcript.ShowsFailures session.around.console)
    (hlog : ∀ record ∈ log, record.Aside) :
    (session.enclose log run).transcript.ShowsFailures session.around.console := by
  have hpreface : (session.preface log).ShowsFailures session.around.console := by
    refine .of_none fun command error hmem => ?_
    have hlogged : .commandFailed command error ∈ log := by
      simpa [preface] using hmem
    simpa [LogRecord.Aside, LogRecord.failure?] using hlog _ hlogged
  have hclosing : Transcript.ShowsFailures session.around.console
      ((closing run.verdict).map .logged) := by
    refine .of_none fun command error hmem => ?_
    cases hverdict : run.verdict <;> simp [closing, hverdict] at hmem
  exact (hpreface.append hrun).append hclosing

theorem closing_eq {verdict : Verdict} (hverdict : ∀ code, verdict ≠ .exited code) :
    closing verdict =
      .sessionStopping :: ((verdict.failure?.map fun failure =>
        LogRecord.sessionFailed (String.intercalate ": " failure.chain)).toList ++
        [.sessionStopped]) := by
  cases verdict with
  | done => rfl
  | failed failure => rfl
  | exited code => exact (hverdict code rfl).elim

theorem records_enclose_of_exited {log : List LogRecord} {run : Run Output} {code : Int}
    (hrun : run.StopsAtExit) (hexited : run.verdict = .exited code) :
    ∃ before, (session.enclose log run).transcript.records =
      before ++ [.exitRequested code] := by
  obtain ⟨before, hbefore⟩ := hrun code hexited
  refine ⟨log ++ .sessionStarted :: before.records, ?_⟩
  rw [records_enclose, hbefore, hexited]
  simp [closing]

theorem filterMap_dispatched?_closing (verdict : Verdict) :
    (closing verdict).filterMap LogRecord.dispatched? = [] := by
  cases verdict <;> rfl

theorem filterMap_failure?_closing (verdict : Verdict) :
    (closing verdict).filterMap LogRecord.failure? =
      (verdict.failure?.map fun failure =>
        (none, String.intercalate ": " failure.chain)).toList := by
  cases verdict <;> rfl

section Prepared

variable {settings : Settings} {catalog : Catalog}

theorem mem_builtin_or_contribution {handler : Handler}
    (hmem : handler ∈ (Session.prepare around settings catalog).1.shell.table.handlers) :
    handler ∈ Builtin.handlers settings ∨
      ∃ module ∈ settings.commandSources,
        handler ∈ catalog.contribution settings module := by
  have htable : (Session.prepare around settings catalog).1.shell.table = _ :=
    Registry.table_loadAll settings catalog
  rw [htable] at hmem
  rcases Table.mem_handlers_insertAll hmem with hnone | hinserted
  · simp [Table.empty] at hnone
  · rcases List.mem_append.mp hinserted with hbuiltin | hsource
    · exact Or.inl hbuiltin
    · exact Or.inr (List.mem_flatMap.mp hsource)

theorem aside_of_mem_prepare_log :
    ∀ record ∈ (Session.prepare around settings catalog).2, record.Aside := by
  refine List.forall_mem_append.mpr ⟨?_, List.forall_mem_singleton.mpr ⟨rfl, rfl⟩⟩
  intro record hmem
  exact (Registry.logsLoading_loadAll settings catalog record hmem).aside

theorem builtin_or_records_of_mem_prepare
    (hsilent : ∀ module ∈ settings.commandSources,
      ∀ handler ∈ catalog.contribution settings module,
        ∀ args, (handler.script args).Silent)
    {handler : Handler}
    (hmem : handler ∈ (Session.prepare around settings catalog).1.shell.table.handlers) :
    handler ∈ Builtin.handlers settings ∨
      ∀ args state, ((handler.script args).run around state).transcript.records =
        ((handler.script args).run around state).verdict.exitRecords := by
  rcases mem_builtin_or_contribution hmem with hbuiltin | ⟨module, hmodule, hsource⟩
  · exact Or.inl hbuiltin
  · refine Or.inr fun args state => ?_
    exact Script.records_run_of_silent (hsilent module hmodule handler hsource args) state

theorem discreet_prepare
    (hsilent : ∀ module ∈ settings.commandSources,
      ∀ handler ∈ catalog.contribution settings module,
        ∀ args, (handler.script args).Silent) :
    (Session.prepare around settings catalog).1.Discreet := by
  intro handler hmem args state
  rcases builtin_or_records_of_mem_prepare hsilent hmem with hbuiltin | hquiet
  · exact Builtin.aside_of_mem_records hbuiltin args state
  · have hown : ((handler.script args).run (prepare around settings catalog).1.around
        state).transcript.records = _ := hquiet args state
    rw [hown]
    exact Verdict.aside_of_mem_exitRecords _

end Prepared

/-- The log of a session whose sources bring only handlers that log nothing.  After the
records of loading it tells the size of the table and the beginning; then the trail of
each dispatch, in order; then the end, with the failure of the session if it failed.  A
session that ends the process on the spot has no such end: its last record is that of the
exit.  Each failure of a command is shown on the console directly after its record and
with the same text.  And the log alone tells which commands were dispatched, reserved
names apart, and which failures there were. -/
theorem runFrom_log_is_audit_trail (around : Surroundings Output) (settings : Settings)
    (catalog : Catalog) (cancelled : Bool) (inputs : List Input)
    (hsilent : ∀ module ∈ settings.commandSources,
      ∀ handler ∈ catalog.contribution settings module,
        ∀ args, (handler.script args).Silent) :
    let session := (Session.prepare around settings catalog).1
    let start := session.initialState cancelled
    let run := Session.runFrom around settings catalog cancelled inputs
    let steps := session.steps start run.transcript.dispatches
    run.transcript.records =
        ((Registry.loadAll { settings := settings, catalog := catalog }).log ++
          [.tableBuilt session.shell.table.size]) ++
          .sessionStarted :: ((steps.flatMap fun step => session.trail step.1 step.2) ++
            closing run.verdict) ∧
    ((∀ code, run.verdict ≠ .exited code) → closing run.verdict =
      .sessionStopping :: ((run.verdict.failure?.map fun failure =>
        LogRecord.sessionFailed (String.intercalate ": " failure.chain)).toList ++
        [.sessionStopped])) ∧
    (∀ code, run.verdict = .exited code → around.exitPolicy = .endProcess ∧
      closing run.verdict = [] ∧
      ∃ before, run.transcript.records = before ++ [.exitRequested code]) ∧
    (∀ handler ∈ session.shell.table.handlers, handler ∈ Builtin.handlers settings ∨
      ∀ args state, let ran := (handler.script args).run around state
        ran.transcript.records = ran.verdict.exitRecords) ∧
    run.transcript.ShowsFailures around.console ∧
    run.transcript.records.filterMap LogRecord.dispatched? =
      (run.transcript.dispatches.map CommandLine.command).filter (· ∉ ["help", "?"]) ∧
    run.transcript.records.filterMap LogRecord.failure? =
      (steps.filterMap fun step => session.failureOf step.1 step.2).map
          (fun failure => (some failure.1, failure.2)) ++
        (run.verdict.failure?.map fun failure =>
          (none, String.intercalate ": " failure.chain)).toList := by
  intro session start run steps
  let log := (Session.prepare around settings catalog).2
  have hrun : run = session.enclose log (session.loop inputs start) :=
    Session.runFrom_eq around settings catalog cancelled inputs
  have hsession : session.Discreet := discreet_prepare hsilent
  have hlog : ∀ record ∈ log, record.Aside := aside_of_mem_prepare_log
  have hrecords : run.transcript.records = log ++ .sessionStarted ::
      ((steps.flatMap fun step => session.trail step.1 step.2) ++ closing run.verdict) := by
    have hsteps : steps = session.steps start
        (session.loop inputs start).transcript.dispatches := by
      simp only [steps, hrun, dispatches_enclose]
    rw [hsteps, ← records_loop, hrun, records_enclose]
    rfl
  refine ⟨hrecords, closing_eq, ?_,
    fun handler => builtin_or_records_of_mem_prepare hsilent, ?_, ?_, ?_⟩
  · intro code hexited
    have hloop : (session.loop inputs start).verdict = .exited code := by
      rw [hrun] at hexited
      exact hexited
    refine ⟨loop_exited hloop, by rw [hexited, closing], ?_⟩
    rw [hrun]
    exact records_enclose_of_exited (session.stopsAtExit_loop inputs start) hloop
  · rw [hrun]
    exact showsFailures_enclose (hsession.showsFailures_loop inputs start) hlog
  · have hstarted : LogRecord.dispatched? .sessionStarted = none := rfl
    rw [hrecords, List.filterMap_append, LogRecord.filterMap_dispatched?_of_aside hlog,
      List.filterMap_cons_none hstarted, List.filterMap_append,
      hsession.filterMap_dispatched?_steps, filterMap_dispatched?_closing]
    simp
  · have hstarted : LogRecord.failure? .sessionStarted = none := rfl
    rw [hrecords, List.filterMap_append, LogRecord.filterMap_failure?_of_aside hlog,
      List.filterMap_cons_none hstarted, List.filterMap_append,
      hsession.filterMap_failure?_steps, filterMap_failure?_closing]
    rfl

/-- The log of a process with a command that fails, a listing and an unknown name, which
ends on the spot when input has ended. -/
theorem log_of_failing_command :
    let failing : Handler :=
      ⟨"format", "", fun _ => .ofActions [.fail ⟨"cannot format", ["disk is full"]⟩]⟩
    let run := Session.runFrom ⟨Console.recorder, .endProcess⟩
      { commandSources := ["disks"] } ⟨[("disks", fun _ => .ok [failing])]⟩ false
      [.line "format now", .line "?", .line "mount"]
    run.transcript.records.filterMap LogRecord.dispatched? = ["format", "mount", "exit"] ∧
      run.transcript.records.filterMap LogRecord.failure? =
        [(some "format", "cannot format: disk is full")] ∧
      ∃ before, run.transcript.records = before ++ [.exitRequested 0] := by
  intro failing run
  have hsilent : ∀ module ∈ ["disks"], ∀ handler ∈ Catalog.contribution
      ⟨[("disks", fun _ => .ok [failing])]⟩ { commandSources := ["disks"] } module,
      ∀ args, (handler.script args).Silent := by
    intro module hmodule handler hmem args
    rw [List.mem_singleton.mp hmodule] at hmem
    have hcontribution : Catalog.contribution ⟨[("disks", fun _ => .ok [failing])]⟩
        { commandSources := ["disks"] } "disks" = [failing] := by rfl
    rw [hcontribution, List.mem_singleton] at hmem
    rw [hmem]
    exact ⟨by simp, fun _ => trivial⟩
  obtain ⟨_, _, hexited, _, _, hdispatched, hfailures⟩ := runFrom_log_is_audit_trail
    ⟨Console.recorder, .endProcess⟩ { commandSources := ["disks"] }
    ⟨[("disks", fun _ => .ok [failing])]⟩ false
    [.line "format now", .line "?", .line "mount"] hsilent
  have hverdict : run.verdict = .exited 0 := by decide
  refine ⟨hdispatched.trans ?_, hfailures.trans ?_, (hexited 0 hverdict).2.2⟩
  · decide
  · decide

end Session
end CommandShell
