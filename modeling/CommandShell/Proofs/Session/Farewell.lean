import CommandShell.Proofs.Program.Dispatch
import CommandShell.Proofs.Session.Cancellation
import CommandShell.Proofs.Shell

/-!
# The farewell

No command but `exit` ends a session, fails, or writes what looks like its farewell.
-/

namespace CommandShell

def Builtin.farewell : Call := .writeLine "Bye..."

def Surroundings.recording : Surroundings Call := ⟨Console.recorder, .cancelToken⟩

/-- A run that ends well, leaves the token alone and does not say goodbye. -/
structure Run.GoesOn (run : Run Call) : Prop where
  succeeds : run.verdict = .done
  keepsToken : .cancelled ∉ run.transcript
  noFarewell : Builtin.farewell ∉ run.transcript.outputs

theorem Run.GoesOn.note {entries : Transcript Call} {state : State}
    (htoken : .cancelled ∉ entries) (hfarewell : Builtin.farewell ∉ entries.outputs) :
    (Run.note entries state).GoesOn :=
  ⟨rfl, htoken, hfarewell⟩

theorem Run.GoesOn.andThen {first : Run Call} {second : State → Run Call}
    (hfirst : first.GoesOn) (hsecond : ∀ next, (second next).GoesOn) :
    (first.andThen second).GoesOn := by
  obtain ⟨transcript, state, verdict⟩ := first
  have hdone : verdict = .done := hfirst.succeeds
  have hnext := hsecond state
  rw [hdone, Run.andThen_done]
  constructor
  · exact hnext.succeeds
  · simp [hfirst.keepsToken, hnext.keepsToken]
  · simp [hfirst.noFarewell, hnext.noFarewell]

theorem Surroundings.goesOn_calls {calls : List Call} (state : State)
    (hcalls : Builtin.farewell ∉ calls) : (recording.calls calls state).GoesOn := by
  have houtputs : Transcript.outputs
      (calls.map fun call => .shown (recording.console.render call)) = calls := by
    simp [Transcript.outputs, List.filterMap_map, Function.comp_def, recording,
      Console.recorder]
  refine .note (by simp) ?_
  rw [houtputs]
  exact hcalls

theorem Surroundings.goesOn_call {call : Call} (state : State)
    (hcall : call ≠ Builtin.farewell) : (recording.call call state).GoesOn := by
  have hcalls : Builtin.farewell ∉ [call] := by
    rw [List.mem_singleton]
    exact hcall.symm
  exact goesOn_calls state hcalls

def Action.GoesOn : Action → Prop
  | .call request => request ≠ Builtin.farewell
  | .cancel => False
  | .exit _ => False
  | .fail _ => False
  | _ => True

theorem Action.goesOn_run {action : Action} (state : State) (haction : action.GoesOn) :
    (action.run .recording state).GoesOn := by
  have hquiet : ∀ next : State, (Run.idle next : Run Call).GoesOn :=
    fun next => .note (by simp) (by simp)
  cases action with
  | call request => exact Surroundings.goesOn_call state haction
  | reportToken =>
      refine Surroundings.goesOn_call state ?_
      unfold State.tokenText
      cases state.cancelled <;> decide
  | yield => exact hquiet state
  | cancel => exact haction.elim
  | setPrompt prompt => exact hquiet _
  | remember memory => exact hquiet _
  | exit code => exact haction.elim
  | fail failure => exact haction.elim
  | log record => exact .note (by simp) (by simp)

theorem Script.goesOn_run_ofActions {actions : List Action}
    (hactions : ∀ action ∈ actions, action.GoesOn) (state : State) :
    ((Script.ofActions actions).run .recording state).GoesOn := by
  refine Script.run_ofActions_keeps (fun _ (_ : True) => .note (by simp) (by simp))
    (fun hfirst hsecond => hfirst.andThen fun next => hsecond next trivial) ?_ trivial
  intro action hmem next _
  exact Action.goesOn_run next (hactions action hmem)

theorem Builtin.greeting_ne_farewell (args : List String) :
    Call.writeLine (greeting args) ≠ farewell := by
  intro hsame
  have hchars := congrArg String.toList (Call.writeLine.inj hsame)
  simp [greeting] at hchars

theorem Program.goesOn_script {settings : Settings} {handler : Handler}
    (hhandler : handler ∈ Program.commands settings) (hname : handler.name ≠ "exit")
    (args : List String) (state : State) :
    ((handler.script args).run .recording state).GoesOn := by
  rcases Program.mem_commands_iff.mp hhandler with rfl | rfl | rfl | rfl
  · refine Script.goesOn_run_ofActions ?_ state
    simp [Action.GoesOn, Builtin.farewell]
  · exact (hname rfl).elim
  · refine Script.goesOn_run_ofActions ?_ state
    simpa [Action.GoesOn] using Builtin.greeting_ne_farewell args
  · cases args with
    | nil =>
        refine Script.goesOn_run_ofActions ?_ state
        simp [Action.GoesOn, Builtin.farewell]
    | cons argument rest =>
        cases rest with
        | nil =>
            refine Script.goesOn_run_ofActions ?_ state
            simp [Action.GoesOn]
        | cons next rest =>
            refine Script.goesOn_run_ofActions ?_ state
            simp [Action.GoesOn, Builtin.farewell]

theorem Program.farewell_not_mem_helpEntry {settings : Settings} {handler : Handler}
    (hhandler : handler ∈ Program.commands settings) :
    Builtin.farewell ∉ Shell.helpEntry handler := by
  have hname : handler.name ≠ "Bye..." := by
    rcases Program.mem_commands_iff.mp hhandler with rfl | rfl | rfl | rfl
    · decide
    · have hexit : "exit" ≠ "Bye..." := by decide
      exact hexit
    · decide
    · decide
  intro hmem
  simp only [Shell.helpEntry, Builtin.farewell, List.mem_cons, List.not_mem_nil,
    or_false, Call.writeLine.injEq] at hmem
  rcases hmem with hsame | hsame
  · exact hname hsame.symm
  · have hchars := congrArg String.toList hsame
    simp at hchars

theorem Shell.farewell_not_mem_help {settings : Settings} {shell : Shell}
    (hhandlers : ∀ handler ∈ shell.table.handlers,
      handler ∈ Program.commands settings) :
    Builtin.farewell ∉ shell.help := by
  intro hmem
  rw [Shell.help, List.mem_cons] at hmem
  rcases hmem with hheader | hentries
  · have hchars := congrArg String.toList (Call.writeLine.inj hheader)
    simp [helpHeader] at hchars
  · obtain ⟨handler, hhandler, hentry⟩ := List.mem_flatMap.mp hentries
    exact Program.farewell_not_mem_helpEntry (hhandlers handler hhandler) hentry

/-! ## Dispatches -/

theorem Shell.goesOn_dispatch {settings : Settings} {shell : Shell} {line : CommandLine}
    (hhandlers : ∀ handler ∈ shell.table.handlers,
      handler ∈ Program.commands settings)
    (hname : line.command ≠ "exit") (state : State) :
    (shell.dispatch .recording line state).GoesOn := by
  rcases shell.dispatch_cases .recording line state with
    hhelp | hunknown | ⟨handler, hmem, hnamed, hinvoke⟩
  · rw [hhelp]
    exact Surroundings.goesOn_calls state (farewell_not_mem_help hhandlers)
  · have hcalls : Builtin.farewell ∉ Shell.unknown line.command := by
      simp [Shell.unknown, Builtin.farewell]
    rw [hunknown]
    exact (Run.GoesOn.note (by simp) (by simp)).andThen fun next =>
      Surroundings.goesOn_calls next hcalls
  · rw [hinvoke]
    exact (Run.GoesOn.note (by simp) (by simp)).andThen fun next =>
      Program.goesOn_script (hhandlers handler hmem) (hnamed ▸ hname) line.args next

theorem Shell.dispatch_exit {settings : Settings} {shell : Shell} {line : CommandLine}
    (hfound : shell.table.get? "exit" = some (Builtin.exit settings))
    (hname : line.command = "exit") (state : State) :
    shell.dispatch .recording line state =
      ⟨[.logged (.handling "exit"), .shown Builtin.farewell,
          .logged (.exiting Builtin.successCode), .exit Builtin.successCode, .cancelled],
        { state with cancelled := true }, .done⟩ := by
  have hreserved : line.command ∉ ["help", "?"] := by
    rw [hname]
    decide
  rw [Shell.dispatch_handler .recording state hreserved (hname ▸ hfound)]
  rfl

namespace Session

/-- A text that spells a command line whose command is `exit`. -/
def Leaves (text : String) : Prop :=
  ∃ line, CommandLine.parse? text = some line ∧ line.command = "exit"

theorem leaves_iff {text : String} {line : CommandLine}
    (hline : CommandLine.parse? text = some line) :
    Leaves text ↔ line.command = "exit" := by
  simp [Leaves, hline]

example : Leaves "exit now" := ⟨⟨"exit", ["now"]⟩, by decide +kernel, rfl⟩

/-- A recorded session of the commands of the program, where `exit` leads to the
built-in command. -/
structure Parting (session : Session Call) : Prop where
  around : session.around = .recording
  handlers : ∀ handler ∈ session.shell.table.handlers,
    handler ∈ Program.commands session.settings
  exit : session.shell.table.get? "exit" = some (Builtin.exit session.settings)

theorem prepare_linked_parting (settings : Settings) :
    (prepare .recording settings Catalog.linked).1.Parting := by
  have hexit : Builtin.exit settings ∈ Builtin.handlers settings := by
    simp [Builtin.handlers]
  constructor
  · rfl
  · intro handler hmem
    exact mem_commands_of_mem_handlers _ settings hmem
  · exact get?_builtin _ settings hexit

variable {session : Session Call}

theorem Parting.outputs_reading (hsession : session.Parting) (state : State)
    (input : Option Input) :
    (session.reading state input).outputs = [.write state.prompt] := by
  rw [reading, hsession.around]
  rfl

theorem Parting.dispatch_goesOn (hsession : session.Parting) {line : CommandLine}
    (hname : line.command ≠ "exit") (state : State) :
    (session.shell.dispatch session.around line state).GoesOn := by
  rw [hsession.around]
  exact Shell.goesOn_dispatch hsession.handlers hname state

theorem Parting.dispatch_exit (hsession : session.Parting) {line : CommandLine}
    (hname : line.command = "exit") (state : State) :
    session.shell.dispatch session.around line state =
      ⟨[.logged (.handling "exit"), .shown Builtin.farewell,
          .logged (.exiting Builtin.successCode), .exit Builtin.successCode, .cancelled],
        { state with cancelled := true }, .done⟩ := by
  rw [hsession.around]
  exact Shell.dispatch_exit hsession.exit hname state

theorem Parting.exchange_of_not_leaves (hsession : session.Parting) {text : String}
    (hstays : ¬ Leaves text) (state : State) :
    .cancelled ∉ session.exchange state (.line text) ∧
      Builtin.farewell ∉ (session.exchange state (.line text)).outputs := by
  have hreading : Builtin.farewell ∉
      (session.reading state (some (.line text))).outputs := by
    simp [hsession.outputs_reading, Builtin.farewell]
  cases hline : CommandLine.parse? text with
  | none =>
      rw [exchange_blank session state hline]
      exact ⟨session.not_cancelled_reading state _, hreading⟩
  | some line =>
      have hname : line.command ≠ "exit" := fun hexit =>
        hstays ((leaves_iff hline).mpr hexit)
      have hrun := hsession.dispatch_goesOn hname state
      rw [exchange_line session state hline]
      constructor
      · simp [not_cancelled_reading, cancelled_mem_episode_iff, hrun.keepsToken]
      · simp [episode, failureEntries, hrun.succeeds, hreading, hrun.noFarewell]

theorem Parting.stateAfter_line_cancelled_iff (hsession : session.Parting)
    (state : State) (text : String) :
    (session.stateAfter state (.line text)).cancelled = true ↔
      state.cancelled = true ∨ Leaves text := by
  by_cases hleaves : Leaves text
  · obtain ⟨line, hline, hexit⟩ := hleaves
    simp [stateAfter, hline, hsession.dispatch_exit hexit, (leaves_iff hline).mpr hexit]
  · have hquiet := (hsession.exchange_of_not_leaves hleaves state).1
    simp [cancelled_stateAfter_iff, hquiet, hleaves]

/-! ## Many lines -/

theorem Parting.open_lines_iff (hsession : session.Parting) (lines : List String)
    (state : State) :
    session.Open state (lines.map .line) ↔
      state.cancelled = false ∧ ∀ text ∈ lines, ¬ Leaves text := by
  induction lines generalizing state with
  | nil => simp [open_nil_iff]
  | cons text rest ih =>
      have hcancelled := hsession.stateAfter_line_cancelled_iff state text
      rw [List.map_cons, open_cons_iff, ih, List.forall_mem_cons, ← Bool.not_eq_true,
        hcancelled, ← Bool.not_eq_true]
      simp [and_assoc]

theorem Parting.farewell_not_mem_account (hsession : session.Parting)
    {lines : List String} (hstays : ∀ text ∈ lines, ¬ Leaves text) (state : State) :
    Builtin.farewell ∉ (session.account state (lines.map .line)).outputs := by
  induction lines generalizing state with
  | nil => simp [account]
  | cons text rest ih =>
      obtain ⟨hfirst, hrest⟩ := List.forall_mem_cons.mp hstays
      have hexchange := (hsession.exchange_of_not_leaves hfirst state).2
      rw [List.map_cons, account, Transcript.outputs_append, List.mem_append, not_or]
      exact ⟨hexchange, ih hrest _⟩

theorem Parting.exitCodes_account (hsession : session.Parting) {lines : List String}
    {state : State} (hopen : session.Open state (lines.map .line)) :
    (session.account state (lines.map .line)).exitCodes = [] := by
  have hpolicy : session.around.exitPolicy ≠ .keepToken := by
    rw [hsession.around]
    decide
  exact Session.exitCodes_account hpolicy hopen.not_cancelled_account

theorem Parting.loop_leaves (hsession : session.Parting) {text : String}
    (hleaves : Leaves text) (earlier : List String) (later : List Input) (state : State) :
    session.loop (earlier.map .line ++ .line text :: later) state =
      session.loop (earlier.map .line ++ [.line text]) state := by
  induction earlier generalizing state with
  | nil =>
      cases hcancelled : state.cancelled with
      | true => simp [hcancelled]
      | false =>
          have hclosed : ¬ session.Open state [.line text] := by
            intro hopen
            exact ((hsession.open_lines_iff [text] state).mp hopen).2 text (by simp)
              hleaves
          rw [List.map_nil, List.nil_append, List.nil_append,
            loop_cons_of_not_open later hcancelled hclosed,
            loop_cons_of_not_open [] hcancelled hclosed]
  | cons first rest ih =>
      simp only [List.map_cons, List.cons_append, loop]
      congr 2
      funext next
      exact ih next

/-! ## The end -/

theorem Parting.outputs_episode_exit (hsession : session.Parting) {line : CommandLine}
    (hexit : line.command = "exit") (state : State) :
    (session.episode line state).outputs = [Builtin.farewell] := by
  simp [episode, failureEntries, hsession.dispatch_exit hexit]

theorem Parting.exitCodes_episode_exit (hsession : session.Parting) {line : CommandLine}
    (hexit : line.command = "exit") (state : State) :
    (session.episode line state).exitCodes = [Builtin.successCode] := by
  simp [exitCodes_episode, hsession.dispatch_exit hexit]

/-- A run that ends well with one `exit`, whose farewell is the last thing it shows
and shown once.  A blank line stands right before the farewell just if `ended`. -/
structure EndsInExit (ended : Prop) (run : Run Call) : Prop where
  succeeds : run.verdict = .done
  cancelled : run.state.cancelled = true
  exitCodes : run.transcript.exitCodes = [Builtin.successCode]
  outputs : ∃ earlier before,
    run.transcript.outputs = earlier ++ [before, Builtin.farewell] ∧
      Builtin.farewell ∉ earlier ++ [before] ∧ (before = .writeLine "" ↔ ended)

theorem Parting.endsInExit_episode (hsession : session.Parting) {ended : Prop}
    {lines : List String} {state : State} {opening : Transcript Call}
    {shown : List Call} {before : Call} {line : CommandLine}
    (hopen : session.Open state (lines.map .line)) (hexit : line.command = "exit")
    (hshown : opening.outputs = shown ++ [before])
    (hfarewell : Builtin.farewell ∉ opening.outputs) (hcodes : opening.exitCodes = [])
    (hbefore : before = .writeLine "" ↔ ended) :
    let last := session.after state (lines.map .line)
    EndsInExit ended
      ⟨session.account state (lines.map .line) ++ opening ++ session.episode line last,
        (session.shell.dispatch session.around line last).state,
        (session.shell.dispatch session.around line last).verdict.reported⟩ := by
  intro last
  have hstays := ((hsession.open_lines_iff lines state).mp hopen).2
  have hquiet := hsession.farewell_not_mem_account hstays state
  have hnone := hsession.exitCodes_account hopen
  rw [hshown] at hfarewell
  constructor
  · simp [hsession.dispatch_exit hexit, Verdict.reported]
  · simp [hsession.dispatch_exit hexit]
  · simp [hnone, hcodes, hsession.exitCodes_episode_exit hexit]
  · refine ⟨(session.account state (lines.map .line)).outputs ++ shown, before, ?_, ?_,
      hbefore⟩
    · simp [hshown, hsession.outputs_episode_exit hexit]
    · rw [List.append_assoc, List.mem_append, not_or]
      exact ⟨hquiet, hfarewell⟩

theorem Parting.leaves_of_not_open (hsession : session.Parting) {earlier : List Input}
    {text : String} {state : State} (hearlier : session.Open state earlier)
    (hclosed : ¬ session.Open state (earlier ++ [.line text])) : Leaves text := by
  by_contra hstays
  refine hclosed ((session.open_append_iff state earlier _).mpr ⟨hearlier, ?_⟩)
  refine (hsession.open_lines_iff [text] _).mpr ⟨hearlier.2, ?_⟩
  simpa using hstays

theorem Parting.endsInExit_loop (hsession : session.Parting) (lines : List String)
    {state : State} (hstart : state.cancelled = false) :
    EndsInExit (∀ text ∈ lines, ¬ Leaves text)
      (session.loop (lines.map .line) state) := by
  have hcourse := session.loop_course (lines.map .line) state
  generalize hrun : session.loop (lines.map .line) state = run at hcourse
  generalize hinputs : lines.map Input.line = inputs at hcourse
  cases hcourse with
  | unopened _ hcancelled =>
      rw [hstart] at hcancelled
      contradiction
  | ended _ hopen =>
      subst hinputs
      have hstays := ((hsession.open_lines_iff lines state).mp hopen).2
      have hshown : Transcript.outputs
          (session.reading (session.after state (lines.map .line)) none ++
            [.shown (session.around.console.render (.writeLine ""))]) =
          [.write (session.after state (lines.map .line)).prompt] ++
            [.writeLine ""] := by
        simp [hsession.outputs_reading, hsession.around, Surroundings.recording,
          Console.recorder]
      rw [lastExchange_eq, ← List.append_assoc]
      refine hsession.endsInExit_episode hopen rfl hshown ?_ ?_ ?_
      · simp [hshown, Builtin.farewell]
      · simp [exitCodes_reading]
      · simpa using hstays
  | stopped earlier input later hearlier hclosed =>
      obtain ⟨before, rest, rfl, rfl, hrest⟩ := List.map_eq_append_iff.mp hinputs
      obtain ⟨text, after, rfl, rfl, rfl⟩ := List.map_eq_cons_iff.mp hrest
      obtain ⟨line, hline, hexit⟩ := hsession.leaves_of_not_open hearlier hclosed
      have hshown := hsession.outputs_reading (session.after state (before.map .line))
        (some (.line text))
      have hafter : session.after state (before.map .line ++ [.line text]) =
          (session.shell.dispatch session.around line
            (session.after state (before.map .line))).state := by
        rw [after_append, after_cons, after_nil]
        simp only [stateAfter, hline]
      rw [hafter, account_append, account_singleton, exchange_line session _ hline,
        ← List.append_assoc]
      simp only [verdictAfter, hline]
      refine hsession.endsInExit_episode hearlier hexit
        (hshown.trans (List.nil_append _).symm) ?_ ?_ ?_
      · simp [hshown, Builtin.farewell]
      · exact exitCodes_reading _ _
      · simpa using ⟨text, by simp, line, hline, hexit⟩

theorem banner_ne_farewell (settings : Settings) :
    Call.writeLine settings.banner ≠ Builtin.farewell := by
  intro hsame
  -- only the banner holds a line break
  have hbreak := congrArg (fun text => '\n' ∈ text.toList) (Call.writeLine.inj hsame)
  simp [Settings.banner] at hbreak

theorem EndsInExit.enclose {ended : Prop} {run : Run Call} (hrun : EndsInExit ended run)
    (log : List LogRecord) (haround : session.around = .recording) :
    EndsInExit ended (session.enclose log run) := by
  have hcodes := Transcript.exitCodes_of_telling (session.preface_telling log)
  have hbanner : (session.preface log).outputs =
      [.writeLine session.settings.banner] := by
    rw [outputs_preface, haround]
    rfl
  obtain ⟨earlier, before, houtputs, hfarewell, hbefore⟩ := hrun.outputs
  constructor
  · exact hrun.succeeds
  · exact hrun.cancelled
  · simp [Session.enclose, hcodes, hrun.exitCodes]
  · refine ⟨.writeLine session.settings.banner :: earlier, before, ?_, ?_, hbefore⟩
    · simp [Session.enclose, hbanner, houtputs]
    · rw [List.cons_append, List.mem_cons, not_or]
      exact ⟨(banner_ne_farewell session.settings).symm, hfarewell⟩

/-- A session of the program on any settings and lines ends well and in `exit`: the
exit code of success is the only one, the token is cancelled, and the farewell is the
last thing it shows and shown once.  A blank line stands right before the farewell just
if no line leaves, and a line after one that leaves makes no difference. -/
theorem runFrom_says_goodbye_once (settings : Settings) (lines : List String) :
    let runOn := fun lines : List String =>
      Session.runFrom .recording settings Catalog.linked false (lines.map .line)
    (runOn lines).verdict = .done ∧
    (runOn lines).state.cancelled = true ∧
    (runOn lines).transcript.exitCodes = [0] ∧
    (∃ earlier before,
      (runOn lines).transcript.outputs = earlier ++ [before, .writeLine "Bye..."] ∧
      .writeLine "Bye..." ∉ earlier ++ [before] ∧
      (before = .writeLine "" ↔ ∀ text ∈ lines, ¬ Leaves text)) ∧
    (∀ earlier text later, lines = earlier ++ text :: later → Leaves text →
      runOn lines = runOn (earlier ++ [text])) := by
  intro runOn
  have hsession := prepare_linked_parting settings
  have hrun := fun lines : List String => Session.runFrom_eq .recording settings
    Catalog.linked false (lines.map .line)
  have hstart : ((prepare .recording settings Catalog.linked).1.initialState
      false).cancelled = false := rfl
  have hend := (hsession.endsInExit_loop lines hstart).enclose
    (prepare .recording settings Catalog.linked).2 hsession.around
  rw [← hrun lines] at hend
  refine ⟨hend.succeeds, hend.cancelled, hend.exitCodes, hend.outputs, ?_⟩
  rintro earlier text later rfl hleaves
  simp only [runOn]
  rw [hrun, hrun, List.map_append, List.map_cons, List.map_append, List.map_cons,
    List.map_nil, hsession.loop_leaves hleaves earlier (later.map .line)]

end Session
end CommandShell
