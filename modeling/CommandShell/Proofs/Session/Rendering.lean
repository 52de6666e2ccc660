import Mathlib.Data.List.Forall2
import CommandShell.Proofs.Session.FailureReports
import CommandShell.Proofs.Session.Order
import CommandShell.Session

/-!
# Sessions on different consoles

A session never looks at what its console makes of a call.  This is proved of one call and
carried up to whole sessions, layer by layer.
-/

namespace CommandShell

section

variable {Output Other : Type}

def Entry.rendered (render : Output → Other) : Entry Output → Entry Other
  | .shown output => .shown (render output)
  | .logged record => .logged record
  | .read input => .read input
  | .dispatched line => .dispatched line
  | .exit code => .exit code
  | .cancelled => .cancelled

def Run.rendered (render : Output → Other) (run : Run Output) : Run Other :=
  ⟨run.transcript.map (Entry.rendered render), run.state, run.verdict⟩

def Surroundings.rendered (render : Output → Other) (around : Surroundings Output) :
    Surroundings Other :=
  ⟨⟨fun call => render (around.console.render call)⟩, around.exitPolicy⟩

variable (render : Output → Other)

theorem Transcript.outputs_rendered (transcript : Transcript Output) :
    Transcript.outputs (transcript.map (Entry.rendered render)) =
      transcript.outputs.map render := by
  induction transcript with
  | nil => rfl
  | cons entry rest ih =>
      rw [List.map_cons, outputs_cons, outputs_cons, List.map_append, ih]
      cases entry <;> rfl

theorem Transcript.records_rendered (transcript : Transcript Output) :
    Transcript.records (transcript.map (Entry.rendered render)) =
      transcript.records := by
  induction transcript with
  | nil => rfl
  | cons entry rest ih =>
      rw [List.map_cons, records_cons, records_cons, ih]
      cases entry <;> rfl

theorem Run.rendered_andThen (first : Run Output) (second : State → Run Output) :
    (first.andThen second).rendered render =
      (first.rendered render).andThen fun state => (second state).rendered render := by
  obtain ⟨transcript, state, verdict⟩ := first
  cases verdict with
  | done => simp [Run.andThen, Run.rendered]
  | failed failure => rfl
  | exited code => rfl

theorem Run.rendered_note_logged (log : List LogRecord) (state : State) :
    (Run.note (log.map .logged) state : Run Output).rendered render =
      Run.note (log.map .logged) state := by
  simp [Run.rendered, Run.note, Entry.rendered]

variable (around : Surroundings Output)

theorem Surroundings.calls_rendered (calls : List Call) (state : State) :
    (around.rendered render).calls calls state =
      (around.calls calls state).rendered render := by
  simp [Surroundings.calls, Surroundings.rendered, Run.note, Run.rendered, Entry.rendered]

theorem Surroundings.exit_rendered (code : Int) (state : State) :
    (around.rendered render).exit code state =
      (around.exit code state).rendered render := by
  simp only [Surroundings.exit, Surroundings.rendered]
  cases around.exitPolicy <;> rfl

theorem Action.run_rendered (action : Action) (state : State) :
    action.run (around.rendered render) state =
      (action.run around state).rendered render := by
  cases action with
  | exit code => exact around.exit_rendered render code state
  | call request => rfl
  | reportToken => rfl
  | yield => rfl
  | cancel => rfl
  | setPrompt prompt => rfl
  | remember memory => rfl
  | fail failure => rfl
  | log record => rfl

theorem Script.run_rendered (script : Script) (state : State) :
    script.run (around.rendered render) state =
      (script.run around state).rendered render := by
  induction script generalizing state with
  | done => rfl
  | step action next ih =>
      rw [Script.run_step, Script.run_step, Run.rendered_andThen, Action.run_rendered]
      simp only [ih]

theorem Handler.invoke_rendered (handler : Handler) (args : List String)
    (state : State) :
    handler.invoke (around.rendered render) args state =
      (handler.invoke around args state).rendered render := by
  unfold Handler.invoke
  rw [Run.rendered_andThen]
  congr 1
  funext next
  exact Script.run_rendered render around (handler.script args) next

theorem Shell.dispatch_rendered (shell : Shell) (line : CommandLine) (state : State) :
    shell.dispatch (around.rendered render) line state =
      (shell.dispatch around line state).rendered render := by
  unfold Shell.dispatch
  split
  · exact around.calls_rendered render shell.help state
  · split
    · rw [Run.rendered_andThen]
      rfl
    · exact Handler.invoke_rendered render around _ line.args state

theorem Shell.dispatchFrom_rendered (shell : Shell) (lines : List (CommandLine × Bool))
    (state : State) :
    shell.dispatchFrom (around.rendered render) lines state =
      (shell.dispatchFrom around lines state).map (Run.rendered render) := by
  induction lines generalizing state with
  | nil => rfl
  | cons line rest ih =>
      simp only [dispatchFrom, dispatch_rendered, List.map_cons, ih]
      rfl

namespace Session

def rendered (session : Session Output) : Session Other :=
  { session with around := session.around.rendered render }

variable (session : Session Output)

theorem report_rendered (line : CommandLine) (run : Run Output) :
    (session.rendered render).report line (run.rendered render) =
      (session.report line run).rendered render := by
  obtain ⟨transcript, state, verdict⟩ := run
  cases verdict with
  | done => rfl
  | exited code => rfl
  | failed failure => simp [report, Run.rendered, Entry.rendered, rendered, Surroundings.rendered]

theorem execute_rendered (line : CommandLine) (state : State) :
    (session.rendered render).execute line state =
      (session.execute line state).rendered render := by
  unfold execute
  rw [Run.rendered_andThen]
  congr 1
  funext next
  rw [← report_rendered]
  congr 1
  exact Shell.dispatch_rendered render session.around session.shell line next

theorem receive_rendered (input : Option Input) (state : State) :
    (session.rendered render).receive input state =
      (session.receive input state).rendered render := by
  unfold receive
  rw [Run.rendered_andThen]
  congr 1
  funext next
  cases input with
  | none =>
      simp only [Run.rendered_andThen]
      congr 1
      funext last
      exact session.execute_rendered render exitLine last
  | some input =>
      cases input with
      | interrupt => rfl
      | failure message => rfl
      | line text =>
          cases hline : CommandLine.parse? text with
          | none =>
              simp only [hline]
              rfl
          | some line =>
              simp only [hline]
              exact session.execute_rendered render line next

theorem turn_rendered (input : Option Input) (state : State) :
    (session.rendered render).turn input state =
      (session.turn input state).rendered render := by
  unfold turn
  rw [Run.rendered_andThen]
  congr 1
  funext next
  exact session.receive_rendered render input next

theorem loop_rendered (inputs : List Input) (state : State) :
    (session.rendered render).loop inputs state =
      (session.loop inputs state).rendered render := by
  induction inputs generalizing state with
  | nil =>
      rw [loop, loop, turn_rendered]
      split <;> rfl
  | cons input rest ih =>
      rw [loop, loop, turn_rendered]
      split
      · rfl
      · rw [Run.rendered_andThen]
        congr 1
        funext next
        exact ih next

theorem finish_rendered (run : Run Output) :
    finish (run.rendered render) = (finish run).rendered render := by
  simp [finish, Run.rendered, Entry.rendered]

theorem run_rendered (inputs : List Input) (state : State) :
    (session.rendered render).run inputs state =
      (session.run inputs state).rendered render := by
  unfold run
  rw [← finish_rendered, Run.rendered_andThen]
  congr 2
  funext next
  exact session.loop_rendered render inputs next

theorem runFrom_rendered (settings : Settings) (catalog : Catalog) (cancelled : Bool)
    (inputs : List Input) :
    Session.runFrom (around.rendered render) settings catalog cancelled inputs =
      (Session.runFrom around settings catalog cancelled inputs).rendered render := by
  unfold runFrom
  simp only [Run.rendered_andThen, Run.rendered_note_logged]
  congr 1
  funext next
  exact run_rendered render (Session.prepare around settings catalog).1 inputs next

/-- A session on a console is the session on a recorder, with every call that was
recorded rendered by the console. -/
theorem runFrom_eq_rendered_recording (around : Surroundings Output)
    (settings : Settings) (catalog : Catalog) (cancelled : Bool) (inputs : List Input) :
    Session.runFrom around settings catalog cancelled inputs =
      (Session.runFrom ⟨Console.recorder, around.exitPolicy⟩ settings catalog cancelled
        inputs).rendered around.console.render :=
  runFrom_rendered around.console.render ⟨Console.recorder, around.exitPolicy⟩ settings
    catalog cancelled inputs

end Session

end

/-! ## What a session shows -/

namespace Session

variable {Output : Type} {session : Session Output} {Holds : Output → Prop}

variable (session Holds) in
structure Shows : Prop where
  prompt : ∀ text, Holds (session.around.console.render (.write text))
  line : ∀ text, Holds (session.around.console.render (.writeLine text))
  report : ∀ text, Holds (session.around.console.render (.error text))
  commands : ∀ line state,
    ∀ output ∈ (session.shell.dispatch session.around line state).transcript.outputs,
      Holds output

theorem Shows.reading (hsession : session.Shows Holds) (state : State)
    (input : Option Input) : ∀ output ∈ (session.reading state input).outputs, Holds output := by
  have hprompt := hsession.prompt state.prompt
  simpa [Session.reading] using hprompt

theorem Shows.failureEntries (hsession : session.Shows Holds) (line : CommandLine)
    (verdict : Verdict) :
    ∀ output ∈ (session.failureEntries line verdict).outputs, Holds output := by
  cases verdict with
  | done => simp [Session.failureEntries]
  | exited code => simp [Session.failureEntries]
  | failed failure => simpa [Session.failureEntries] using hsession.report failure.message

theorem Shows.episode (hsession : session.Shows Holds) (line : CommandLine)
    (state : State) : ∀ output ∈ (session.episode line state).outputs, Holds output := by
  have hepisode : (session.episode line state).outputs =
      (session.shell.dispatch session.around line state).transcript.outputs ++
        (session.failureEntries line
          (session.shell.dispatch session.around line state).verdict).outputs := by
    simp [Session.episode]
  rw [hepisode]
  exact List.forall_mem_append.mpr
    ⟨hsession.commands line state, hsession.failureEntries line _⟩

theorem Shows.exchange (hsession : session.Shows Holds) (state : State) (input : Input) :
    ∀ output ∈ (session.exchange state input).outputs, Holds output := by
  have hreading := hsession.reading state (some input)
  cases input with
  | failure message => exact hreading
  | interrupt =>
      rw [exchange_interrupt, Transcript.outputs_append]
      simpa using hreading
  | line text =>
      cases hline : CommandLine.parse? text with
      | none =>
          rw [exchange_blank session state hline]
          exact hreading
      | some line =>
          rw [exchange_line session state hline, Transcript.outputs_append]
          exact List.forall_mem_append.mpr ⟨hreading, hsession.episode line state⟩

theorem Shows.lastExchange (hsession : session.Shows Holds) (state : State) :
    ∀ output ∈ (session.lastExchange state).outputs, Holds output := by
  rw [lastExchange_eq, Transcript.outputs_append, Transcript.outputs_append]
  refine List.forall_mem_append.mpr
    ⟨List.forall_mem_append.mpr ⟨hsession.reading state none, ?_⟩,
      hsession.episode exitLine state⟩
  simpa using hsession.line ""

theorem Shows.loop (hsession : session.Shows Holds) (inputs : List Input) (state : State) :
    ∀ output ∈ (session.loop inputs state).transcript.outputs, Holds output := by
  induction inputs generalizing state with
  | nil =>
      rw [Session.loop, turn_none]
      split
      · simp [Run.idle]
      · exact hsession.lastExchange state
  | cons input rest ih =>
      have hexchange := hsession.exchange state input
      rw [Session.loop, turn_some]
      split
      · simp [Run.idle]
      · cases session.verdictAfter state input with
        | failed failure => exact hexchange
        | exited code => exact hexchange
        | done =>
            rw [Run.andThen_done, Transcript.outputs_append]
            exact List.forall_mem_append.mpr ⟨hexchange, ih _⟩

theorem Shows.enclose (hsession : session.Shows Holds) {run : Run Output}
    (hrun : ∀ output ∈ run.transcript.outputs, Holds output) (log : List LogRecord) :
    ∀ output ∈ (session.enclose log run).transcript.outputs, Holds output := by
  have hbanner := hsession.line session.settings.banner
  simp only [Session.enclose, Transcript.outputs_append, Transcript.outputs_map_logged,
    List.append_nil, outputs_preface]
  exact List.forall_mem_append.mpr ⟨List.forall_mem_singleton.mpr hbanner, hrun⟩

theorem Shows.runFrom {around : Surroundings Output} {settings : Settings}
    {catalog : Catalog} (hsession : (prepare around settings catalog).1.Shows Holds)
    (cancelled : Bool) (inputs : List Input) :
    ∀ output ∈ (runFrom around settings catalog cancelled inputs).transcript.outputs,
      Holds output := by
  rw [runFrom_eq]
  exact hsession.enclose (hsession.loop inputs _) _

end Session

/-! ## Warnings and errors without channels of their own -/

/-- How a call is recorded apart, and how without channels: a warning is a yellow line
and an error a red one, and any other call is the same. -/
inductive Call.MergesTo : Call → Call → Prop
  | warning (text : String) : MergesTo (.warning text) (.writeLineColored text .yellow)
  | error (text : String) : MergesTo (.error text) (.writeLineColored text .red)
  | same {call : Call} :
      (∀ text, call ≠ .warning text) → (∀ text, call ≠ .error text) → MergesTo call call

inductive Entry.MergesTo : Entry Call → Entry Call → Prop
  | shown {recorded merged : Call} :
      recorded.MergesTo merged → MergesTo (.shown recorded) (.shown merged)
  | same {entry : Entry Call} : (∀ call, entry ≠ .shown call) → MergesTo entry entry

theorem Call.mergesTo_merged (call : Call) : call.MergesTo call.merged := by
  cases call with
  | warning text => exact .warning text
  | error text => exact .error text
  | title text => exact .same (by simp) (by simp)
  | write text => exact .same (by simp) (by simp)
  | writeColored text color => exact .same (by simp) (by simp)
  | writeLine text => exact .same (by simp) (by simp)
  | writeLineColored text color => exact .same (by simp) (by simp)
  | clear => exact .same (by simp) (by simp)

theorem Entry.mergesTo_rendered (entry : Entry Call) :
    entry.MergesTo (entry.rendered Call.merged) := by
  cases entry with
  | shown call => exact .shown call.mergesTo_merged
  | logged record => exact .same (by simp)
  | read input => exact .same (by simp)
  | dispatched line => exact .same (by simp)
  | exit code => exact .same (by simp)
  | cancelled => exact .same (by simp)

section Views

variable {recorded merged : Transcript Call}

theorem Transcript.outputs_mergesTo
    (hmerges : List.Forall₂ Entry.MergesTo recorded merged) :
    List.Forall₂ Call.MergesTo recorded.outputs merged.outputs := by
  induction hmerges with
  | nil => exact .nil
  | @cons entry other recorded merged hentry _ ih =>
      cases hentry with
      | shown hcall => exact .cons hcall ih
      | same hother =>
          cases entry with
          | shown call => exact (hother call rfl).elim
          | _ => exact ih

theorem Transcript.filterMap_eq_of_mergesTo {View : Type}
    {view : Entry Call → Option View} (hview : ∀ call, view (.shown call) = none)
    (hmerges : List.Forall₂ Entry.MergesTo recorded merged) :
    merged.filterMap view = recorded.filterMap view := by
  induction hmerges with
  | nil => rfl
  | cons hentry _ ih =>
      cases hentry with
      | shown hcall =>
          rw [List.filterMap_cons_none (hview _), List.filterMap_cons_none (hview _), ih]
      | same hother => rw [List.filterMap_cons, List.filterMap_cons, ih]

end Views

/-- Two runs that differ only in the names under which warnings and errors are recorded. -/
structure Run.MergesTo (recorded merged : Run Call) : Prop where
  transcript : List.Forall₂ Entry.MergesTo recorded.transcript merged.transcript
  outputs :
    List.Forall₂ Call.MergesTo recorded.transcript.outputs merged.transcript.outputs
  records : merged.transcript.records = recorded.transcript.records
  inputs : merged.transcript.inputs = recorded.transcript.inputs
  dispatches : merged.transcript.dispatches = recorded.transcript.dispatches
  exitCodes : merged.transcript.exitCodes = recorded.transcript.exitCodes
  state : merged.state = recorded.state
  verdict : merged.verdict = recorded.verdict

theorem Run.mergesTo_rendered (run : Run Call) :
    run.MergesTo (run.rendered Call.merged) := by
  have htranscript : List.Forall₂ Entry.MergesTo run.transcript
      (run.rendered Call.merged).transcript := by
    rw [Run.rendered, List.forall₂_map_right_iff, List.forall₂_same]
    exact fun entry _ => entry.mergesTo_rendered
  constructor
  · exact htranscript
  · exact Transcript.outputs_mergesTo htranscript
  · exact Transcript.filterMap_eq_of_mergesTo (fun _ => rfl) htranscript
  · exact Transcript.filterMap_eq_of_mergesTo (fun _ => rfl) htranscript
  · exact Transcript.filterMap_eq_of_mergesTo (fun _ => rfl) htranscript
  · exact Transcript.filterMap_eq_of_mergesTo (fun _ => rfl) htranscript
  · rfl
  · rfl

theorem Transcript.prompts_rendered {Output Other : Type} (render : Output → Other)
    (transcript : Transcript Output) :
    Transcript.prompts (transcript.map (Entry.rendered render)) =
      transcript.prompts.map render := by
  fun_induction Transcript.prompts transcript with
  | case1 => rfl
  | case2 output input rest ih =>
      simp only [List.map_cons, Entry.rendered, prompts, ih]
  | case3 entry rest hother ih =>
      rw [List.map_cons, prompts, ih]
      intro output input others hentry hrest
      cases entry with
      | shown shown =>
          cases rest with
          | nil => simp at hrest
          | cons next rest =>
              cases next with
              | read given => exact hother shown given rest rfl rfl
              | _ => simp [Entry.rendered] at hrest
      | _ => simp [Entry.rendered] at hentry

namespace Session

variable {Output : Type} {session : Session Output}

theorem exists_write_of_mem_prompts_loop {inputs : List Input} {state : State}
    {output : Output} (hmem : output ∈ (session.loop inputs state).transcript.prompts) :
    ∃ text, output = session.around.console.render (.write text) := by
  induction inputs generalizing state with
  | nil =>
      rw [loop, turn_none] at hmem
      split at hmem
      · simp [Run.idle, Transcript.prompts] at hmem
      · rw [prompts_lastExchange, List.mem_singleton] at hmem
        exact ⟨state.prompt, hmem⟩
  | cons input rest ih =>
      have hfirst : output ∈ (session.exchange state input).prompts →
          ∃ text, output = session.around.console.render (.write text) := by
        rw [prompts_exchange, List.mem_singleton]
        exact fun hprompt => ⟨state.prompt, hprompt⟩
      rw [loop, turn_some] at hmem
      split at hmem
      · simp [Run.idle, Transcript.prompts] at hmem
      · cases hverdict : session.verdictAfter state input with
        | failed failure =>
            rw [hverdict] at hmem
            exact hfirst hmem
        | exited code =>
            rw [hverdict] at hmem
            exact hfirst hmem
        | done =>
            rw [hverdict, Run.andThen_done,
              Transcript.prompts_append (loop_not_read rest _)] at hmem
            exact (List.mem_append.mp hmem).elim hfirst ih

theorem prompts_runFrom_merged (policy : ExitPolicy) (settings : Settings)
    (catalog : Catalog) (cancelled : Bool) (inputs : List Input) :
    let recorded := Session.runFrom ⟨Console.recorder, policy⟩ settings catalog cancelled
      inputs
    (recorded.rendered Call.merged).transcript.prompts = recorded.transcript.prompts := by
  intro recorded
  have hkept : ∀ call ∈ recorded.transcript.prompts, call.merged = call := by
    intro call hmem
    simp only [recorded, runFrom_eq, prompts_enclose] at hmem
    obtain ⟨text, rfl⟩ := exists_write_of_mem_prompts_loop hmem
    rfl
  rw [Run.rendered, Transcript.prompts_rendered, List.map_congr_left hkept, List.map_id']

/-- The same session on a console that records warnings and errors apart and on one that
leaves them to ordinary lines: the transcripts agree entry by entry, but that each warning
is a yellow line and each error a red line, at the same place; and all else is the same.
So it is for any command lines that a shell dispatches, each with a token of its own. -/
theorem runFrom_merges_channels (policy : ExitPolicy) (settings : Settings)
    (catalog : Catalog) (cancelled : Bool) (inputs : List Input) :
    let recorded := Session.runFrom ⟨Console.recorder, policy⟩ settings catalog cancelled
      inputs
    let merged := Session.runFrom ⟨Console.mergingRecorder, policy⟩ settings catalog
      cancelled inputs
    recorded.MergesTo merged ∧
    merged.transcript.prompts = recorded.transcript.prompts ∧
    ∀ (shell : Shell) (lines : List (CommandLine × Bool)) (prompt : String),
      List.Forall₂ Run.MergesTo
        (shell.dispatchEach ⟨Console.recorder, policy⟩ lines prompt)
        (shell.dispatchEach ⟨Console.mergingRecorder, policy⟩ lines prompt) := by
  intro recorded merged
  have hmerged : merged = recorded.rendered Call.merged :=
    runFrom_rendered Call.merged ⟨Console.recorder, policy⟩ settings catalog cancelled inputs
  refine ⟨?_, ?_, ?_⟩
  · rw [hmerged]
    exact recorded.mergesTo_rendered
  · rw [hmerged]
    exact prompts_runFrom_merged policy settings catalog cancelled inputs
  · intro shell lines prompt
    have hlines : shell.dispatchEach ⟨Console.mergingRecorder, policy⟩ lines prompt =
        (shell.dispatchEach ⟨Console.recorder, policy⟩ lines prompt).map
          (Run.rendered Call.merged) :=
      shell.dispatchFrom_rendered Call.merged ⟨Console.recorder, policy⟩ lines _
    rw [hlines, List.forall₂_map_right_iff, List.forall₂_same]
    exact fun run _ => run.mergesTo_rendered

end Session

end CommandShell
