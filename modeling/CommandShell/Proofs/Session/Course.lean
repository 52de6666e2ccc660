import CommandShell.Session

/-!
# The course of a session

`Course` lists the three ways in which a session goes on while it is open, and `loop_course`
shows that the loop takes one of them.  Statements about whole sessions are read off it.
-/

namespace CommandShell

section

variable {Output : Type} {around : Surroundings Output}

/-- What holds of a run from a state whenever commands alone have made it. -/
structure Run.ByCommand (around : Surroundings Output) (state : State)
    (run : Run Output) : Prop where
  inputs : run.transcript.inputs = []
  dispatches : run.transcript.dispatches = []
  cancelled_iff :
    run.state.cancelled = true ↔
      state.cancelled = true ∨ .cancelled ∈ run.transcript
  exited : ∀ code, run.verdict = .exited code →
    around.exitPolicy = .endProcess ∧ .cancelled ∈ run.transcript
  exitCodes : around.exitPolicy ≠ .keepToken →
    .cancelled ∉ run.transcript → run.transcript.exitCodes = []

def Entry.Telling : Entry Output → Prop
  | .shown _ => True
  | .logged _ => True
  | _ => False

theorem Transcript.filterMap_eq_nil_of_telling {View : Type}
    {view : Entry Output → Option View} {transcript : Transcript Output}
    (htelling : ∀ entry ∈ transcript, entry.Telling)
    (hshown : ∀ output, view (.shown output) = none)
    (hlogged : ∀ record, view (.logged record) = none) :
    transcript.filterMap view = [] := by
  rw [List.filterMap_eq_nil_iff]
  intro entry hmem
  have hentry := htelling entry hmem
  cases entry with
  | shown output => exact hshown output
  | logged record => exact hlogged record
  | read input => exact hentry.elim
  | dispatched line => exact hentry.elim
  | exit code => exact hentry.elim
  | cancelled => exact hentry.elim

theorem Transcript.inputs_of_telling {transcript : Transcript Output}
    (htelling : ∀ entry ∈ transcript, entry.Telling) : transcript.inputs = [] :=
  Transcript.filterMap_eq_nil_of_telling htelling (fun _ => rfl) (fun _ => rfl)

theorem Transcript.dispatches_of_telling {transcript : Transcript Output}
    (htelling : ∀ entry ∈ transcript, entry.Telling) : transcript.dispatches = [] :=
  Transcript.filterMap_eq_nil_of_telling htelling (fun _ => rfl) (fun _ => rfl)

theorem Transcript.exitCodes_of_telling {transcript : Transcript Output}
    (htelling : ∀ entry ∈ transcript, entry.Telling) : transcript.exitCodes = [] :=
  Transcript.filterMap_eq_nil_of_telling htelling (fun _ => rfl) (fun _ => rfl)

theorem Transcript.not_cancelled_of_telling {transcript : Transcript Output}
    (htelling : ∀ entry ∈ transcript, entry.Telling) :
    .cancelled ∉ transcript :=
  fun hmem => htelling .cancelled hmem

theorem Run.ByCommand.of_telling {state after : State}
    {transcript : Transcript Output} {verdict : Verdict}
    (htelling : ∀ entry ∈ transcript, entry.Telling)
    (hafter : after.cancelled = state.cancelled)
    (hverdict : ∀ code, verdict ≠ .exited code) :
    Run.ByCommand around state ⟨transcript, after, verdict⟩ := by
  have hnot := Transcript.not_cancelled_of_telling htelling
  constructor
  · exact Transcript.inputs_of_telling htelling
  · exact Transcript.dispatches_of_telling htelling
  · simp [hafter, hnot]
  · intro code hcode
    exact absurd hcode (hverdict code)
  · intro _ _
    exact Transcript.exitCodes_of_telling htelling

theorem Run.ByCommand.idle (state : State) :
    Run.ByCommand around state (.idle state) :=
  .of_telling (by simp) rfl (by simp)

theorem Run.ByCommand.andThen {state : State} {first : Run Output}
    {second : State → Run Output} (hfirst : first.ByCommand around state)
    (hsecond : ∀ next, (second next).ByCommand around next) :
    (first.andThen second).ByCommand around state := by
  obtain ⟨transcript, next, verdict⟩ := first
  cases verdict with
  | failed failure => exact hfirst
  | exited code => exact hfirst
  | done =>
      have hnext := hsecond next
      constructor
      · simp [Run.andThen, hfirst.inputs, hnext.inputs]
      · simp [Run.andThen, hfirst.dispatches, hnext.dispatches]
      · have hcancelled := hfirst.cancelled_iff
        simp only [Run.andThen, List.mem_append]
        rw [hnext.cancelled_iff, hcancelled, or_assoc]
      · intro code hcode
        obtain ⟨hpolicy, hmem⟩ := hnext.exited code hcode
        exact ⟨hpolicy, List.mem_append_right transcript hmem⟩
      · intro hpolicy hnot
        simp only [Run.andThen, List.mem_append, not_or] at hnot ⊢
        rw [Transcript.exitCodes_append, hfirst.exitCodes hpolicy hnot.1,
          hnext.exitCodes hpolicy hnot.2]
        rfl

theorem Surroundings.call_byCommand (call : Call) (state : State) :
    (around.call call state).ByCommand around state :=
  .of_telling (by simp [Entry.Telling]) rfl (by simp)

theorem Surroundings.calls_byCommand (calls : List Call) (state : State) :
    (around.calls calls state).ByCommand around state := by
  refine .of_telling ?_ rfl (by simp)
  intro entry hmem
  obtain ⟨call, _, rfl⟩ := List.mem_map.mp hmem
  trivial

theorem Run.note_logged_byCommand (record : LogRecord) (state : State) :
    (Run.note [.logged record] state).ByCommand around state :=
  .of_telling (by simp [Entry.Telling]) rfl (by simp)

theorem Surroundings.exit_byCommand (code : Int) (state : State) :
    (around.exit code state).ByCommand around state := by
  unfold Surroundings.exit
  cases hpolicy : around.exitPolicy with
  | cancelToken => constructor <;> simp
  | keepToken =>
      constructor
      · simp
      · simp
      · simp
      · simp
      · intro hkeep
        exact absurd hpolicy hkeep
  | endProcess => constructor <;> simp [hpolicy]

theorem Action.run_byCommand (state : State) (action : Action) :
    (action.run around state).ByCommand around state := by
  cases action with
  | call request => exact Surroundings.call_byCommand request state
  | reportToken => exact Surroundings.call_byCommand _ state
  | yield => exact .idle state
  | cancel => constructor <;> simp [Action.run]
  | setPrompt prompt => exact .of_telling (by simp) rfl (by simp)
  | remember memory => exact .of_telling (by simp) rfl (by simp)
  | exit code => exact Surroundings.exit_byCommand code state
  | fail failure => exact .of_telling (by simp) rfl (by simp)
  | log record => exact Run.note_logged_byCommand record state

theorem Script.run_byCommand (script : Script) (state : State) :
    (script.run around state).ByCommand around state := by
  induction script generalizing state with
  | done => exact .idle state
  | step action next ih =>
      rw [Script.run_step]
      exact (Action.run_byCommand state action).andThen fun after => ih after after

theorem Script.run_ofActions_keeps {Good : State → Prop} {Holds : Run Output → Prop}
    (hidle : ∀ state, Good state → Holds (.idle state))
    (handThen : ∀ {first : Run Output} {second : State → Run Output}, Holds first →
      (∀ next, Good next → Holds (second next)) → Holds (first.andThen second))
    {actions : List Action} {state : State}
    (hactions : ∀ action ∈ actions, ∀ next, Good next → Holds (action.run around next))
    (hstate : Good state) : Holds ((ofActions actions).run around state) := by
  induction actions generalizing state with
  | nil => exact hidle state hstate
  | cons action rest ih =>
      rw [ofActions, run_step]
      refine handThen (hactions action (by simp) state hstate) ?_
      intro next hnext
      exact ih (fun other hmem => hactions other (List.mem_cons_of_mem action hmem)) hnext

theorem Handler.invoke_byCommand (handler : Handler) (args : List String) (state : State) :
    (handler.invoke around args state).ByCommand around state :=
  (Run.note_logged_byCommand _ state).andThen (Script.run_byCommand (handler.script args))

theorem Shell.dispatch_byCommand (shell : Shell) (around : Surroundings Output)
    (line : CommandLine) (state : State) :
    (shell.dispatch around line state).ByCommand around state := by
  unfold Shell.dispatch
  split
  · exact Surroundings.calls_byCommand shell.help state
  · split
    · exact (Run.note_logged_byCommand _ state).andThen
        (Surroundings.calls_byCommand (Shell.unknown line.command))
    · exact Handler.invoke_byCommand _ line.args state

end

/-- The command line that an input spells; none when it is not a line or has no
token. -/
def Input.commandLine? : Input → Option CommandLine
  | .line text => CommandLine.parse? text
  | _ => none

def Verdict.reported : Verdict → Verdict
  | .failed _ => .done
  | verdict => verdict

theorem Run.andThen_done {Output : Type} (transcript : Transcript Output) (state : State)
    (second : State → Run Output) :
    (Run.mk transcript state .done).andThen second =
      ⟨transcript ++ (second state).transcript, (second state).state,
        (second state).verdict⟩ := rfl

namespace Session

variable {Output : Type} (session : Session Output)

/-! ## What one input leaves -/

def failureEntries (line : CommandLine) : Verdict → Transcript Output
  | .failed failure =>
    [.logged (.commandFailed line.command failure.message),
      .shown (session.around.console.render (.error failure.message))]
  | _ => []

/-- The entries of a command line: it is dispatched, all that the dispatch does,
and its failure if it fails. -/
def episode (line : CommandLine) (state : State) : Transcript Output :=
  let run := session.shell.dispatch session.around line state
  .dispatched line :: (run.transcript ++ session.failureEntries line run.verdict)

/-- The entries of one read: the prompt in force, the input, and what it causes. -/
def exchange (state : State) (input : Input) : Transcript Output :=
  .shown (session.around.console.render (.write state.prompt)) :: .read (some input) ::
    match input with
    | .line text =>
      match CommandLine.parse? text with
      | none => []
      | some line => session.episode line state
    | .failure _ => []
    | .interrupt => [.cancelled]

def lastExchange (state : State) : Transcript Output :=
  .shown (session.around.console.render (.write state.prompt)) :: .read none ::
    .shown (session.around.console.render (.writeLine "")) ::
      session.episode exitLine state

def reading (state : State) (input : Option Input) : Transcript Output :=
  [.shown (session.around.console.render (.write state.prompt)), .read input]

theorem failureEntries_telling (line : CommandLine) (verdict : Verdict) :
    ∀ entry ∈ session.failureEntries line verdict, entry.Telling := by
  cases verdict <;> simp [failureEntries, Entry.Telling]

theorem exchange_interrupt (state : State) :
    session.exchange state .interrupt =
      session.reading state (some .interrupt) ++ [.cancelled] := rfl

theorem exchange_failure (state : State) (message : String) :
    session.exchange state (.failure message) =
      session.reading state (some (.failure message)) := rfl

theorem exchange_blank {text : String} (state : State)
    (hline : CommandLine.parse? text = none) :
    session.exchange state (.line text) =
      session.reading state (some (.line text)) := by
  simp [exchange, reading, hline]

theorem exchange_line {text : String} {line : CommandLine} (state : State)
    (hline : CommandLine.parse? text = some line) :
    session.exchange state (.line text) =
      session.reading state (some (.line text)) ++ session.episode line state := by
  simp [exchange, reading, hline]

theorem lastExchange_eq (state : State) :
    session.lastExchange state =
      session.reading state none ++
        [.shown (session.around.console.render (.writeLine ""))] ++
        session.episode exitLine state := rfl

def stateAfter (state : State) : Input → State
  | .line text =>
    match CommandLine.parse? text with
    | none => state
    | some line => (session.shell.dispatch session.around line state).state
  | .failure _ => state
  | .interrupt => { state with cancelled := true }

def verdictAfter (state : State) : Input → Verdict
  | .line text =>
    match CommandLine.parse? text with
    | none => .done
    | some line => (session.shell.dispatch session.around line state).verdict.reported
  | .failure message => .failed (readFailure message)
  | .interrupt => .done

theorem execute_eq (line : CommandLine) (state : State) :
    session.execute line state =
      ⟨session.episode line state,
        (session.shell.dispatch session.around line state).state,
        (session.shell.dispatch session.around line state).verdict.reported⟩ := by
  unfold execute episode report
  rw [Run.note, Run.andThen_done]
  cases hverdict : (session.shell.dispatch session.around line state).verdict <;>
    simp [failureEntries, Verdict.reported, hverdict]

theorem turn_some (input : Input) (state : State) :
    session.turn (some input) state =
      ⟨session.exchange state input, session.stateAfter state input,
        session.verdictAfter state input⟩ := by
  unfold turn ask receive Surroundings.call
  rw [Run.note, Run.andThen_done, Run.note, Run.andThen_done]
  cases input with
  | failure message => rfl
  | interrupt => rfl
  | line text =>
      cases hline : CommandLine.parse? text with
      | none => simp [exchange, stateAfter, verdictAfter, hline, Run.idle]
      | some line =>
          simp [exchange, stateAfter, verdictAfter, hline, execute_eq]

theorem turn_none (state : State) :
    session.turn none state =
      ⟨session.lastExchange state,
        (session.shell.dispatch session.around exitLine state).state,
        (session.shell.dispatch session.around exitLine state).verdict.reported⟩ := by
  unfold turn ask receive Surroundings.call
  rw [Run.note, Run.andThen_done, Run.note, Run.andThen_done]
  rw [Run.note, Run.andThen_done, execute_eq]
  rfl

theorem stateAfter_cancelled {state : State} (input : Input)
    (hcancelled : state.cancelled = true) :
    (session.stateAfter state input).cancelled = true := by
  cases input with
  | failure message => exact hcancelled
  | interrupt => rfl
  | line text =>
      cases hline : CommandLine.parse? text with
      | none => simpa [stateAfter, hline] using hcancelled
      | some line =>
          have hrun := session.shell.dispatch_byCommand session.around line state
          simpa [stateAfter, hline] using hrun.cancelled_iff.mpr (Or.inl hcancelled)

/-- A line that ends the process has cancelled the token, so one that leaves the
token alone ends well. -/
theorem verdictAfter_line {state : State} {text : String}
    (hafter : (session.stateAfter state (.line text)).cancelled = false) :
    session.verdictAfter state (.line text) = .done := by
  cases hline : CommandLine.parse? text with
  | none => simp [verdictAfter, hline]
  | some line =>
      simp only [stateAfter, hline] at hafter
      have hrun := session.shell.dispatch_byCommand session.around line state
      cases hverdict :
          (session.shell.dispatch session.around line state).verdict with
      | done => simp [verdictAfter, hline, hverdict, Verdict.reported]
      | failed failure => simp [verdictAfter, hline, hverdict, Verdict.reported]
      | exited code =>
          have hcancelled := hrun.cancelled_iff.mpr
            (Or.inr (hrun.exited code hverdict).2)
          rw [hafter] at hcancelled
          contradiction

/-! ## What many inputs leave -/

def after (state : State) (inputs : List Input) : State :=
  inputs.foldl session.stateAfter state

/-- The entries of reading and handling the inputs in order. -/
def account : State → List Input → Transcript Output
  | _, [] => []
  | state, input :: rest =>
    session.exchange state input ++ account (session.stateAfter state input) rest

@[simp] theorem after_nil (state : State) : session.after state [] = state := rfl

@[simp] theorem after_cons (state : State) (input : Input) (rest : List Input) :
    session.after state (input :: rest) =
      session.after (session.stateAfter state input) rest := rfl

theorem after_append (state : State) (earlier later : List Input) :
    session.after state (earlier ++ later) =
      session.after (session.after state earlier) later :=
  List.foldl_append

theorem account_append (state : State) (earlier later : List Input) :
    session.account state (earlier ++ later) =
      session.account state earlier ++
        session.account (session.after state earlier) later := by
  induction earlier generalizing state with
  | nil => rfl
  | cons input earlier ih =>
      simp only [List.cons_append, account, after_cons]
      rw [ih, List.append_assoc]

theorem account_singleton (state : State) (input : Input) :
    session.account state [input] = session.exchange state input := by
  simp [account]

theorem after_cancelled {state : State} (inputs : List Input)
    (hcancelled : state.cancelled = true) :
    (session.after state inputs).cancelled = true := by
  induction inputs generalizing state with
  | nil => exact hcancelled
  | cons input rest ih =>
      exact ih (session.stateAfter_cancelled input hcancelled)

/-- A session is open after inputs if each of them was a line and the token is
still not cancelled. -/
def Open (state : State) (inputs : List Input) : Prop :=
  (∀ input ∈ inputs, ∃ text, input = .line text) ∧
    (session.after state inputs).cancelled = false

theorem open_nil_iff (state : State) :
    session.Open state [] ↔ state.cancelled = false := by
  simp [Open]

theorem open_cons_iff (state : State) (input : Input) (rest : List Input) :
    session.Open state (input :: rest) ↔
      (∃ text, input = .line text) ∧
        session.Open (session.stateAfter state input) rest := by
  simp [Open, and_assoc]

theorem open_append_iff (state : State) (earlier later : List Input) :
    session.Open state (earlier ++ later) ↔
      session.Open state earlier ∧
        session.Open (session.after state earlier) later := by
  induction earlier generalizing state with
  | nil =>
      simp only [List.nil_append, after_nil, open_nil_iff]
      constructor
      · intro hopen
        refine ⟨?_, hopen⟩
        cases hcancelled : state.cancelled with
        | false => rfl
        | true =>
            have hlater := session.after_cancelled later hcancelled
            rw [hopen.2] at hlater
            contradiction
      · exact And.right
  | cons input earlier ih =>
      rw [List.cons_append, open_cons_iff, open_cons_iff, ih, after_cons, and_assoc]

variable {session}

theorem Open.not_cancelled {state : State} {inputs : List Input}
    (hopen : session.Open state inputs) : state.cancelled = false :=
  (session.open_nil_iff state).mp
    ((session.open_append_iff state [] inputs).mp hopen).1

theorem loop_append {state : State} {earlier : List Input} (later : List Input)
    (hopen : session.Open state earlier) :
    session.loop (earlier ++ later) state =
      (Run.mk (session.account state earlier) (session.after state earlier)
        .done).andThen (session.loop later) := by
  induction earlier generalizing state with
  | nil => rfl
  | cons input earlier ih =>
      have hstart := hopen.not_cancelled
      obtain ⟨⟨text, rfl⟩, hrest⟩ := (session.open_cons_iff state input earlier).mp hopen
      have hdone := session.verdictAfter_line hrest.not_cancelled
      rw [List.cons_append, loop, if_neg (by simp [hstart]), turn_some, hdone]
      rw [Run.andThen_done, ih hrest]
      simp only [Run.andThen_done, account, after_cons, List.append_assoc]

theorem loop_cons_of_not_open {state : State} {input : Input} (later : List Input)
    (hstart : state.cancelled = false) (hclosed : ¬ session.Open state [input]) :
    session.loop (input :: later) state = session.turn (some input) state := by
  rw [loop, if_neg (by simp [hstart]), turn_some]
  cases hverdict : session.verdictAfter state input with
  | failed failure => rfl
  | exited code => rfl
  | done =>
      have hcancelled : (session.stateAfter state input).cancelled = true := by
        cases input with
        | failure message => simp [verdictAfter] at hverdict
        | interrupt => rfl
        | line text =>
            cases hafter : (session.stateAfter state (.line text)).cancelled with
            | true => rfl
            | false => exact (hclosed ⟨by simp, hafter⟩).elim
      rw [Run.andThen_done, session.loop_of_cancelled later hcancelled]
      simp [Run.idle]

/-! ## The three courses -/

variable (session) in
/-- The ways in which a session handles its inputs, with the run that each makes. -/
inductive Course (state : State) : List Input → Run Output → Prop
  /-- The token was cancelled before the first read. -/
  | unopened (input : List Input) :
      state.cancelled = true → Course state input (.idle state)
  /-- All inputs were handled and the end of input was met. -/
  | ended (input : List Input) :
      session.Open state input →
      Course state input
        ⟨session.account state input ++
            session.lastExchange (session.after state input),
          (session.shell.dispatch session.around exitLine
            (session.after state input)).state,
          (session.shell.dispatch session.around exitLine
            (session.after state input)).verdict.reported⟩
  /-- The input was handled that leaves the session closed. -/
  | stopped (earlier : List Input) (input : Input) (later : List Input) :
      session.Open state earlier → ¬ session.Open state (earlier ++ [input]) →
      Course state (earlier ++ input :: later)
        ⟨session.account state (earlier ++ [input]),
          session.after state (earlier ++ [input]),
          session.verdictAfter (session.after state earlier) input⟩

variable (session) in
theorem open_or_stops (state : State) (inputs : List Input) :
    state.cancelled = true ∨ session.Open state inputs ∨
      ∃ earlier input later, inputs = earlier ++ input :: later ∧
        session.Open state earlier ∧ ¬ session.Open state (earlier ++ [input]) := by
  induction inputs generalizing state with
  | nil =>
      cases hcancelled : state.cancelled with
      | true => exact Or.inl rfl
      | false =>
          exact Or.inr (Or.inl ((session.open_nil_iff state).mpr hcancelled))
  | cons input rest ih =>
      cases hcancelled : state.cancelled with
      | true => exact Or.inl rfl
      | false =>
          right
          have hnil := (session.open_nil_iff state).mpr hcancelled
          by_cases hone : session.Open state [input]
          · obtain ⟨hline, hnext⟩ := (session.open_cons_iff state input []).mp hone
            rcases ih (session.stateAfter state input) with
              hstop | hall | ⟨earlier, next, later, rfl, hearlier, hclosed⟩
            · rw [hnext.not_cancelled] at hstop
              contradiction
            · exact Or.inl ((session.open_cons_iff state input rest).mpr ⟨hline, hall⟩)
            · right
              refine ⟨input :: earlier, next, later, rfl, ?_, ?_⟩
              · exact (session.open_cons_iff state input earlier).mpr
                  ⟨hline, hearlier⟩
              · intro hopen
                exact hclosed ((session.open_cons_iff state input _).mp hopen).2
          · exact Or.inr ⟨[], input, rest, rfl, hnil, hone⟩

variable (session) in
theorem loop_course (inputs : List Input) (state : State) :
    session.Course state inputs (session.loop inputs state) := by
  rcases session.open_or_stops state inputs with
    hcancelled | hopen | ⟨earlier, input, later, rfl, hearlier, hclosed⟩
  · rw [session.loop_of_cancelled inputs hcancelled]
    exact .unopened inputs hcancelled
  · have hloop := loop_append [] hopen
    rw [List.append_nil, Run.andThen_done, loop, if_neg (by simp [hopen.2]),
      turn_none] at hloop
    rw [hloop]
    exact .ended inputs hopen
  · have hstop : ¬ session.Open (session.after state earlier) [input] :=
      fun hone => hclosed
        ((session.open_append_iff state earlier [input]).mpr ⟨hearlier, hone⟩)
    have hloop := loop_append (input :: later) hearlier
    rw [Run.andThen_done, loop_cons_of_not_open later hearlier.2 hstop,
      turn_some] at hloop
    rw [hloop, ← account_singleton, ← account_append]
    have hafter :
        session.stateAfter (session.after state earlier) input =
          session.after state (earlier ++ [input]) := by
      rw [after_append, after_cons, after_nil]
    rw [hafter]
    exact .stopped earlier input later hearlier hclosed

/-! ## Whole sessions -/

variable (session) in
def preface (log : List LogRecord) : Transcript Output :=
  log.map .logged ++
    [.logged .sessionStarted,
      .shown (session.around.console.render (.writeLine session.settings.banner))]

variable (session) in
theorem preface_telling (log : List LogRecord) :
    ∀ entry ∈ session.preface log, entry.Telling := by
  intro entry hmem
  rcases List.mem_append.mp hmem with hlog | hbanner
  · obtain ⟨record, _, rfl⟩ := List.mem_map.mp hlog
    trivial
  · simp only [List.mem_cons, List.not_mem_nil, or_false] at hbanner
    rcases hbanner with rfl | rfl <;> trivial

variable (session) in
def enclose (log : List LogRecord) (run : Run Output) : Run Output :=
  { run with
    transcript :=
      session.preface log ++ run.transcript ++ (closing run.verdict).map .logged }

theorem inputs_enclose (log : List LogRecord) (run : Run Output) :
    (session.enclose log run).transcript.inputs = run.transcript.inputs := by
  have hpreface := Transcript.inputs_of_telling (session.preface_telling log)
  simp [enclose, hpreface]

theorem dispatches_enclose (log : List LogRecord) (run : Run Output) :
    (session.enclose log run).transcript.dispatches = run.transcript.dispatches := by
  have hpreface := Transcript.dispatches_of_telling (session.preface_telling log)
  simp [enclose, hpreface]

variable (session) in
theorem run_eq (inputs : List Input) (state : State) :
    session.run inputs state = session.enclose [] (session.loop inputs state) := by
  unfold run finish start Surroundings.call
  simp only [Run.note, Run.andThen_done]
  simp [preface, enclose]

theorem runFrom_eq (around : Surroundings Output) (settings : Settings)
    (catalog : Catalog) (cancelled : Bool) (inputs : List Input) :
    let prepared := Session.prepare around settings catalog
    Session.runFrom around settings catalog cancelled inputs =
      prepared.1.enclose prepared.2
        (prepared.1.loop inputs (prepared.1.initialState cancelled)) := by
  intro prepared
  simp only [runFrom, Run.note, Run.andThen_done, run_eq]
  simp [prepared, preface, enclose]

end Session

end CommandShell
