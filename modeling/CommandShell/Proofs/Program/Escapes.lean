import CommandShell.Program
import CommandShell.Proofs.Program.Dispatch
import CommandShell.Proofs.Session.Order
import CommandShell.Proofs.Shell
import CommandShell.Proofs.Text

/-!
# Escape sequences in redirected output

Of plain settings and lines only `cls` makes an escape character, by the one sequence that
clears the display wherever the output goes.
-/

namespace CommandShell

/-- A run of a command that writes plain texts: it leaves a plain prompt and does
not fail. -/
structure Run.Plain (run : Run String) : Prop where
  outputs : ∀ output ∈ run.transcript.outputs, Text.Plain output
  prompt : Text.Plain run.state.prompt
  succeeds : ∀ failure, run.verdict ≠ .failed failure

theorem Run.Plain.note {entries : Transcript String} {state : State}
    (houtputs : entries.outputs = []) (hprompt : Text.Plain state.prompt) :
    (Run.note entries state).Plain := by
  constructor
  · rw [Run.note, houtputs]
    simp
  · exact hprompt
  · simp [Run.note]

theorem Run.Plain.andThen {first : Run String} {second : State → Run String}
    (hfirst : first.Plain)
    (hsecond : ∀ next : State, Text.Plain next.prompt → (second next).Plain) :
    (first.andThen second).Plain := by
  obtain ⟨transcript, state, verdict⟩ := first
  cases verdict with
  | failed failure => exact (hfirst.succeeds failure rfl).elim
  | exited code => exact hfirst
  | done =>
      have hnext := hsecond state hfirst.prompt
      rw [Run.andThen_done]
      constructor
      · intro output hmem
        rw [Transcript.outputs_append, List.mem_append] at hmem
        exact hmem.elim (hfirst.outputs output) (hnext.outputs output)
      · exact hnext.prompt
      · exact hnext.succeeds

structure Surroundings.Redirected (around : Surroundings String) : Prop where
  plain_render : ∀ call : Call, call.Plain → Text.Plain (around.console.render call)
  clear_escapes : ¬ Text.Plain (around.console.render .clear)

variable {around : Surroundings String}

theorem Surroundings.Redirected.plain_calls (hredirected : around.Redirected)
    {calls : List Call} {state : State} (hcalls : ∀ call ∈ calls, call.Plain)
    (hprompt : Text.Plain state.prompt) : (around.calls calls state).Plain := by
  constructor
  · intro output hmem
    obtain ⟨entry, hentry, hshown⟩ := List.mem_filterMap.mp hmem
    obtain ⟨call, hcall, rfl⟩ := List.mem_map.mp hentry
    rw [Entry.shown?, Option.some.injEq] at hshown
    exact hshown ▸ hredirected.plain_render call (hcalls call hcall)
  · exact hprompt
  · simp [Surroundings.calls, Run.note]

theorem Surroundings.Redirected.plain_call (hredirected : around.Redirected)
    {call : Call} {state : State} (hcall : call.Plain)
    (hprompt : Text.Plain state.prompt) : (around.call call state).Plain := by
  have hcalls : ∀ other ∈ [call], other.Plain := by
    intro other hmem
    rw [List.mem_singleton] at hmem
    exact hmem ▸ hcall
  exact hredirected.plain_calls hcalls hprompt

theorem Surroundings.plain_exit (code : Int) {state : State}
    (hprompt : Text.Plain state.prompt) : (around.exit code state).Plain := by
  unfold Surroundings.exit
  cases around.exitPolicy <;> constructor <;> simp [hprompt]

def Action.Plain : Action → Prop
  | .call request => request.Plain
  | .setPrompt prompt => Text.Plain prompt
  | .fail _ => False
  | _ => True

theorem Action.plain_run (hredirected : around.Redirected) {action : Action}
    {state : State} (haction : action.Plain) (hprompt : Text.Plain state.prompt) :
    (action.run around state).Plain := by
  cases action with
  | call request => exact hredirected.plain_call haction hprompt
  | reportToken =>
      have htoken : Text.Plain state.tokenText := by
        unfold State.tokenText
        cases state.cancelled <;> decide
      exact hredirected.plain_call htoken hprompt
  | yield => exact .note rfl hprompt
  | cancel => constructor <;> simp [Action.run, hprompt]
  | setPrompt prompt => exact .note rfl haction
  | remember memory => exact .note rfl hprompt
  | exit code => exact Surroundings.plain_exit code hprompt
  | fail failure => exact haction.elim
  | log record => exact .note rfl hprompt

theorem Script.plain_run_ofActions (hredirected : around.Redirected)
    {actions : List Action} {state : State}
    (hactions : ∀ action ∈ actions, action.Plain) (hprompt : Text.Plain state.prompt) :
    ((Script.ofActions actions).run around state).Plain := by
  refine Script.run_ofActions_keeps (fun _ hnext => .note rfl hnext)
    (fun hfirst hsecond => hfirst.andThen hsecond) ?_ hprompt
  intro action hmem next hnext
  exact Action.plain_run hredirected (hactions action hmem) hnext

theorem Builtin.plain_greeting {args : List String}
    (hargs : ∀ arg ∈ args, Text.Plain arg) : Text.Plain (Builtin.greeting args) := by
  have hseparator : Text.Plain ", " := by decide
  exact Text.Plain.append (by decide) (hseparator.intercalate hargs)

theorem Prompt.plain_ofArgument {argument : String} (hargument : Text.Plain argument) :
    Text.Plain (Prompt.ofArgument argument) :=
  hargument.trim.append (by decide)

theorem Program.plain_script {settings : Settings} {handler : Handler}
    {args : List String} {state : State} (hredirected : around.Redirected)
    (hhandler : handler ∈ Program.commands settings) (hname : handler.name ≠ "cls")
    (hargs : ∀ arg ∈ args, Text.Plain arg) (hprompt : Text.Plain state.prompt) :
    ((handler.script args).run around state).Plain := by
  rcases Program.mem_commands_iff.mp hhandler with rfl | rfl | rfl | rfl
  · exact (hname rfl).elim
  · refine Script.plain_run_ofActions hredirected ?_ hprompt
    have hbye : Text.Plain "Bye..." := by decide
    simpa [Action.Plain, Call.Plain] using hbye
  · refine Script.plain_run_ofActions hredirected ?_ hprompt
    simpa [Action.Plain, Call.Plain] using Builtin.plain_greeting hargs
  · have hinvalid : Text.Plain Prompt.invalidArguments := by decide +kernel
    cases args with
    | nil =>
        refine Script.plain_run_ofActions hredirected ?_ hprompt
        simpa [Action.Plain, Call.Plain] using hinvalid
    | cons argument rest =>
        cases rest with
        | nil =>
            have hset := Prompt.plain_ofArgument (hargs argument (by simp))
            refine Script.plain_run_ofActions hredirected ?_ hprompt
            simpa [Action.Plain] using hset
        | cons next rest =>
            refine Script.plain_run_ofActions hredirected ?_ hprompt
            simpa [Action.Plain, Call.Plain] using hinvalid

theorem Program.plain_helpEntry {settings : Settings} {handler : Handler}
    (hname : Text.Plain settings.appName)
    (hhandler : handler ∈ Program.commands settings) :
    ∀ call ∈ Shell.helpEntry handler, call.Plain := by
  have hentry : Text.Plain handler.name → Text.Plain handler.description →
      ∀ call ∈ Shell.helpEntry handler, call.Plain := by
    intro hnamed hdescription
    have hline : Text.Plain ("  " ++ handler.description ++ "\n") :=
      (Text.Plain.append (by decide) hdescription).append (by decide)
    simpa [Shell.helpEntry, Call.Plain] using ⟨hnamed, hline⟩
  rcases Program.mem_commands_iff.mp hhandler with rfl | rfl | rfl | rfl
  · exact hentry (by decide) (by decide)
  · have hexit : Text.Plain "exit" := by decide
    exact hentry hexit ((Text.Plain.append (by decide) hname).append (by decide))
  · exact hentry (by decide) (by decide)
  · exact hentry (by decide) (by decide +kernel)

/-! ## Shells of the program -/

/-- A shell of the commands of the program under a plain name, where `cls` clears the
display. -/
structure Shell.OfProgram (settings : Settings) (shell : Shell) : Prop where
  appName : Text.Plain shell.appName
  settingsName : Text.Plain settings.appName
  handlers : ∀ handler ∈ shell.table.handlers, handler ∈ Program.commands settings
  clear : shell.table.get? "cls" = some Builtin.clear

theorem Session.prepare_linked_ofProgram (around : Surroundings String)
    {settings : Settings} (hname : Text.Plain settings.appName) :
    (Session.prepare around settings Catalog.linked).1.shell.OfProgram settings := by
  have hclear : Builtin.clear ∈ Builtin.handlers settings := by
    simp [Builtin.handlers]
  constructor
  · exact hname
  · exact hname
  · intro handler hmem
    exact Session.mem_commands_of_mem_handlers around settings hmem
  · exact Session.get?_builtin around settings hclear

theorem Shell.OfProgram.plain_help {settings : Settings} {shell : Shell}
    (hshell : shell.OfProgram settings) : ∀ call ∈ shell.help, call.Plain := by
  intro call hmem
  rw [Shell.help, List.mem_cons] at hmem
  rcases hmem with rfl | hentries
  · have htitle : Text.Plain (Shell.helpTitle shell.appName) :=
      hshell.appName.append (by decide)
    have hrule : Text.Plain (String.ofList
        (List.replicate (Shell.helpTitle shell.appName).length '-')) := by
      simp [Text.Plain, List.mem_replicate]
    exact (((Text.Plain.append (by decide) htitle).append (by decide)).append
      hrule).append (by decide)
  · obtain ⟨handler, hhandler, hcall⟩ := List.mem_flatMap.mp hentries
    exact Program.plain_helpEntry hshell.settingsName
      (hshell.handlers handler hhandler) call hcall

theorem Shell.plain_unknown {command : String} (hcommand : Text.Plain command) :
    ∀ call ∈ Shell.unknown command, call.Plain := by
  have hopening : Text.Plain "\nError: Unknown Command '" := by decide
  have hclosing : Text.Plain "'\n" := by decide
  simpa [Shell.unknown, Call.Plain] using ⟨hopening, hcommand, hclosing⟩

theorem Shell.OfProgram.plain_dispatch {settings : Settings} {shell : Shell}
    {line : CommandLine} {state : State} (hshell : shell.OfProgram settings)
    (hredirected : around.Redirected) (hline : line.Plain) (hname : line.command ≠ "cls")
    (hprompt : Text.Plain state.prompt) :
    (shell.dispatch around line state).Plain := by
  rcases shell.dispatch_cases around line state with
    hhelp | hunknown | ⟨handler, hmem, hnamed, hinvoke⟩
  · rw [hhelp]
    exact hredirected.plain_calls hshell.plain_help hprompt
  · rw [hunknown]
    exact (Run.Plain.note rfl hprompt).andThen fun next hnext =>
      hredirected.plain_calls (Shell.plain_unknown hline.command) hnext
  · rw [hinvoke]
    exact (Run.Plain.note rfl hprompt).andThen fun next hnext =>
      Program.plain_script hredirected (hshell.handlers handler hmem) (hnamed ▸ hname)
        hline.args hnext

theorem Shell.OfProgram.dispatch_clear {settings : Settings} {shell : Shell}
    {line : CommandLine} (hshell : shell.OfProgram settings)
    (around : Surroundings String) (state : State) (hname : line.command = "cls") :
    shell.dispatch around line state =
      ⟨[.logged (.handling "cls"), .shown (around.console.render .clear)], state,
        .done⟩ := by
  have hreserved : line.command ∉ ["help", "?"] := by
    rw [hname]
    decide
  rw [Shell.dispatch_handler around state hreserved (hname ▸ hshell.clear)]
  rfl

/-! ## Sessions of the program -/

/-- A run with a plain prompt that shows an escape character just if it dispatches
`cls`. -/
structure Run.EscapesByClearing (run : Run String) : Prop where
  escapes_iff : (∃ output ∈ run.transcript.outputs, ¬ Text.Plain output) ↔
    ∃ line ∈ run.transcript.dispatches, line.command = "cls"
  prompt : Text.Plain run.state.prompt

theorem Run.EscapesByClearing.of_plain {run : Run String}
    (houtputs : ∀ output ∈ run.transcript.outputs, Text.Plain output)
    (hdispatches : run.transcript.dispatches = [])
    (hprompt : Text.Plain run.state.prompt) : run.EscapesByClearing := by
  constructor
  · constructor
    · rintro ⟨output, hmem, hescape⟩
      exact (hescape (houtputs output hmem)).elim
    · rw [hdispatches]
      simp
  · exact hprompt

theorem Run.EscapesByClearing.andThen {first : Run String} {second : State → Run String}
    (hfirst : first.EscapesByClearing)
    (hsecond : ∀ next : State, Text.Plain next.prompt →
      (second next).EscapesByClearing) :
    (first.andThen second).EscapesByClearing := by
  obtain ⟨transcript, state, verdict⟩ := first
  cases verdict with
  | failed failure => exact hfirst
  | exited code => exact hfirst
  | done =>
      have hnext := hsecond state hfirst.prompt
      have hiff := hfirst.escapes_iff
      rw [Run.andThen_done]
      constructor
      · simp only [Transcript.outputs_append, Transcript.dispatches_append,
          List.mem_append, or_and_right, exists_or]
        rw [hiff, hnext.escapes_iff]
      · exact hnext.prompt

theorem Run.EscapesByClearing.note {entries : Transcript String} {state : State}
    (houtputs : entries.outputs = []) (hdispatches : entries.dispatches = [])
    (hprompt : Text.Plain state.prompt) :
    (Run.note entries state).EscapesByClearing := by
  refine .of_plain ?_ hdispatches hprompt
  rw [Run.note, houtputs]
  simp

theorem Surroundings.Redirected.escapesByClearing_call (hredirected : around.Redirected)
    {call : Call} {state : State} (hcall : call.Plain)
    (hprompt : Text.Plain state.prompt) :
    (around.call call state).EscapesByClearing :=
  .of_plain (hredirected.plain_call hcall hprompt).outputs rfl hprompt

namespace Session

structure OfProgram (session : Session String) : Prop where
  redirected : session.around.Redirected
  shell : session.shell.OfProgram session.settings
  banner : Text.Plain session.settings.banner

variable {session : Session String}

theorem OfProgram.execute (hsession : session.OfProgram) {line : CommandLine}
    {state : State} (hline : line.Plain) (hprompt : Text.Plain state.prompt) :
    (session.execute line state).EscapesByClearing := by
  rw [execute_eq]
  by_cases hname : line.command = "cls"
  · have hdispatch := hsession.shell.dispatch_clear session.around state hname
    have hescape := hsession.redirected.clear_escapes
    simp only [episode, hdispatch, failureEntries]
    constructor
    · simp [hname, hescape]
    · exact hprompt
  · have hrun := hsession.shell.plain_dispatch hsession.redirected hline hname hprompt
    have hreports : session.failureEntries line
        (session.shell.dispatch session.around line state).verdict = [] := by
      cases hverdict : (session.shell.dispatch session.around line state).verdict with
      | done => rfl
      | failed failure => exact (hrun.succeeds failure hverdict).elim
      | exited code => rfl
    have houtputs : (session.episode line state).outputs =
        (session.shell.dispatch session.around line state).transcript.outputs := by
      simp [episode, hreports]
    constructor
    · rw [houtputs, dispatches_episode]
      constructor
      · rintro ⟨output, hmem, hescape⟩
        exact (hescape (hrun.outputs output hmem)).elim
      · rintro ⟨other, hmem, hother⟩
        rw [List.mem_singleton] at hmem
        exact (hname (hmem ▸ hother)).elim
    · exact hrun.prompt

theorem OfProgram.turn (hsession : session.OfProgram) {input : Option Input}
    {state : State} (hinput : ∀ text, input = some (.line text) → Text.Plain text)
    (hprompt : Text.Plain state.prompt) :
    (session.turn input state).EscapesByClearing := by
  have hask : (Call.write state.prompt).Plain := hprompt
  refine (hsession.redirected.escapesByClearing_call hask hprompt).andThen ?_
  intro asked hasked
  refine (Run.EscapesByClearing.note rfl rfl hasked).andThen ?_
  intro next hnext
  cases input with
  | none =>
      have hempty : (Call.writeLine "").Plain := by
        have hplain : Text.Plain "" := by decide
        exact hplain
      have hexit : exitLine.Plain := ⟨by decide, by simp [exitLine]⟩
      exact (hsession.redirected.escapesByClearing_call hempty hnext).andThen
        fun _ hplain => hsession.execute hexit hplain
  | some input =>
      cases input with
      | interrupt => exact .of_plain (by simp) rfl hnext
      | failure message => exact .of_plain (by simp) rfl hnext
      | line text =>
          have htext := hinput text rfl
          cases hline : CommandLine.parse? text with
          | none =>
              simp only [hline]
              exact .note rfl rfl hnext
          | some line =>
              simp only [hline]
              exact hsession.execute (.of_parse? htext hline) hnext

theorem OfProgram.loop (hsession : session.OfProgram) {inputs : List Input}
    (hinputs : ∀ text, .line text ∈ inputs → Text.Plain text) {state : State}
    (hprompt : Text.Plain state.prompt) :
    (session.loop inputs state).EscapesByClearing := by
  induction inputs generalizing state with
  | nil =>
      by_cases hcancelled : state.cancelled = true
      · rw [session.loop_of_cancelled [] hcancelled]
        exact .note rfl rfl hprompt
      · rw [Session.loop, if_neg hcancelled]
        exact hsession.turn (by simp) hprompt
  | cons input rest ih =>
      by_cases hcancelled : state.cancelled = true
      · rw [session.loop_of_cancelled (input :: rest) hcancelled]
        exact .note rfl rfl hprompt
      · rw [Session.loop, if_neg hcancelled]
        have hrest : ∀ text, .line text ∈ rest → Text.Plain text :=
          fun text hmem => hinputs text (List.mem_cons_of_mem input hmem)
        refine (hsession.turn ?_ hprompt).andThen fun next hnext => ih hrest hnext
        intro text hinput
        rw [Option.some.injEq] at hinput
        exact hinputs text (by simp [hinput])

theorem OfProgram.run (hsession : session.OfProgram) {inputs : List Input}
    (hinputs : ∀ text, .line text ∈ inputs → Text.Plain text) {state : State}
    (hprompt : Text.Plain state.prompt) :
    (session.run inputs state).EscapesByClearing := by
  have hstart : (session.start state).EscapesByClearing :=
    (Run.EscapesByClearing.note rfl rfl hprompt).andThen fun _ hnext =>
      hsession.redirected.escapesByClearing_call hsession.banner hnext
  have hloop := hstart.andThen fun _ hnext => hsession.loop hinputs hnext
  constructor
  · simpa [Session.run, finish] using hloop.escapes_iff
  · exact hloop.prompt

theorem escapesByClearing_runFrom {settings : Settings} (hredirected : around.Redirected)
    (hname : Text.Plain settings.appName) (hbanner : Text.Plain settings.banner)
    (hprompt : Text.Plain settings.prompt) (cancelled : Bool) {inputs : List Input}
    (hinputs : ∀ text, .line text ∈ inputs → Text.Plain text) :
    (runFrom around settings Catalog.linked cancelled inputs).EscapesByClearing := by
  have hshell := prepare_linked_ofProgram around hname
  have hsession : (prepare around settings Catalog.linked).1.OfProgram :=
    ⟨hredirected, hshell, hbanner⟩
  unfold runFrom
  refine (Run.EscapesByClearing.note ?_ ?_ hprompt).andThen ?_
  · exact Transcript.outputs_map_logged _
  · exact Transcript.dispatches_map_logged _
  · intro next hnext
    exact hsession.run hinputs hnext

end Session

/-! ## The output of the program -/

theorem Settings.plain_banner {settings : Settings} (hname : Text.Plain settings.appName)
    (hversion : Text.Plain settings.appVersion) : Text.Plain settings.banner := by
  have hbetween : Text.Plain " Version " := by decide
  have hend : Text.Plain "\n" := by decide
  exact ((hname.append hbetween).append hversion).append hend

namespace Program

theorem redirected_surroundings {launch : Launch} (options : Options)
    (hpiped : launch.interactive = false) : (surroundings launch options).Redirected := by
  have hcolors : (terminal launch options).colors = false := by
    simp [terminal, Terminal.forEnvironment, hpiped]
  have hclear : ¬ Text.Plain Terminal.clearDisplay := by decide
  constructor
  · intro call hcall
    exact Terminal.plain_write hcolors hcall
  · exact hclear

/-- The output of a redirected program on plain settings and lines is plain just if
no command line it dispatches is `cls`. -/
theorem plain_output_iff_never_clears {launch : Launch} {options : Options}
    {settings : Settings} {bytes : List UInt8}
    (hconfigured : configure launch = .ok (options, settings))
    (hpiped : launch.interactive = false) (hname : Text.Plain settings.appName)
    (hversion : Text.Plain settings.appVersion) (hprompt : Text.Plain settings.prompt)
    (hlines : ∀ text, .line text ∈ LineFeed.inputs bytes → Text.Plain text) :
    Text.Plain (run launch bytes).output ↔
      ∀ line ∈ (Session.runFrom (surroundings launch options) settings Catalog.linked
        false (LineFeed.inputs bytes)).transcript.dispatches, line.command ≠ "cls" := by
  have hredirected := redirected_surroundings options hpiped
  have hbanner := Settings.plain_banner hname hversion
  have hescapes := (Session.escapesByClearing_runFrom hredirected hname hbanner hprompt
    false hlines).escapes_iff
  have hopening : opening launch options settings = [] := by
    simp [opening, hpiped]
  have houtput : (run launch bytes).output = String.join
      (Session.runFrom (surroundings launch options) settings Catalog.linked
        false (LineFeed.inputs bytes)).transcript.outputs := by
    rw [run, hconfigured]
    simp only [serve, hopening, List.nil_append]
  rw [houtput, Text.plain_join_iff]
  constructor
  · intro hplain line hmem hclear
    obtain ⟨output, houtput, hescape⟩ := hescapes.mpr ⟨line, hmem, hclear⟩
    exact hescape (hplain output houtput)
  · intro hnever output hmem
    by_contra hescape
    obtain ⟨line, hline, hclear⟩ := hescapes.mp ⟨output, hmem, hescape⟩
    exact hnever line hline hclear

def pipedLaunch : Launch := ⟨[], fun _ => none, fun _ => .absent, false⟩

theorem configure_pipedLaunch :
    configure pipedLaunch = .ok ({}, { appVersion := version }) := rfl

theorem plain_lines_of_inputs {bytes : List UInt8} {line : String}
    (hinputs : LineFeed.inputs bytes = [.line line]) (hline : Text.Plain line) :
    ∀ text, .line text ∈ LineFeed.inputs bytes → Text.Plain text := by
  intro text hmem
  rw [hinputs, List.mem_singleton, Input.line.injEq] at hmem
  exact hmem ▸ hline

def helloBytes : List UInt8 := [104, 101, 108, 108, 111, 10]

theorem inputs_helloBytes : LineFeed.inputs helloBytes = [.line "hello"] := by
  decide +kernel

theorem plain_output_of_hello : Text.Plain (run pipedLaunch helloBytes).output := by
  have hlines := plain_lines_of_inputs inputs_helloBytes (by decide)
  refine (plain_output_iff_never_clears configure_pipedLaunch rfl (by decide)
    (by decide) (by decide) hlines).mpr ?_
  rw [inputs_helloBytes]
  decide +kernel

def clearBytes : List UInt8 := [99, 108, 115, 10]

theorem inputs_clearBytes : LineFeed.inputs clearBytes = [.line "cls"] := by
  decide +kernel

theorem output_of_clear : (run pipedLaunch clearBytes).output =
    "ReplConsole Version 0.4.0\n\n> \x1b[2J\x1b[1;1H> \nBye...\n" := by
  rw [run, configure_pipedLaunch]
  simp only [inputs_clearBytes]
  rfl

/-- A redirected output on plain settings and lines can hold an escape character. -/
theorem redirected_output_not_always_plain :
    ¬ ∀ (launch : Launch) (options : Options) (settings : Settings) (bytes : List UInt8),
      configure launch = .ok (options, settings) → launch.interactive = false →
      Text.Plain settings.appName → Text.Plain settings.appVersion →
      Text.Plain settings.prompt →
      (∀ text, .line text ∈ LineFeed.inputs bytes → Text.Plain text) →
      Text.Plain (run launch bytes).output := by
  intro halways
  have hlines := plain_lines_of_inputs inputs_clearBytes (by decide)
  have hplain := halways pipedLaunch {} { appVersion := version } clearBytes
    configure_pipedLaunch rfl (by decide) (by decide) (by decide) hlines
  have hescape : ¬ Text.Plain (run pipedLaunch clearBytes).output := by
    rw [output_of_clear]
    decide
  exact hescape hplain

end Program
end CommandShell
