import CommandShell.Program
import CommandShell.Proofs.Console.LineFeed
import CommandShell.Proofs.Program.Dispatch
import CommandShell.Proofs.Program.Escapes
import CommandShell.Proofs.Program.NoColor
import CommandShell.Proofs.Session.Course
import CommandShell.Proofs.Session.Ending
import CommandShell.Proofs.Session.Farewell
import CommandShell.Proofs.Session.ReadFailure
import CommandShell.Proofs.Session.Rendering

/-!
# What a run of the program leaves

The reader of a program runs beside its session.  Since their moves cannot upset the
deliveries, every order of them leaves what the loop leaves on the inputs of the stream.
-/

namespace CommandShell

section

namespace LineFeed

theorem ended_not_mem_deliveriesOf (pieces : List (List UInt8)) :
    .ended ∉ deliveriesOf pieces := by
  induction pieces with
  | nil => simp [deliveriesOf]
  | cons piece rest ih =>
      rw [deliveriesOf]
      cases deliver piece with
      | line text => simpa using ih
      | invalid => simp
      | ended => simp

end LineFeed

namespace Feed

def Holds (feed : Feed) (deliveries : List Delivery) : Prop :=
  .ended ∉ deliveries ∧ feed.future = deliveries ++ₛ Stream'.const .ended

theorem holds_deliveries (bytes : List UInt8) :
    Holds { unread := bytes } (LineFeed.deliveries bytes) :=
  ⟨LineFeed.ended_not_mem_deliveriesOf (LineFeed.pieces bytes), rfl⟩

variable {feed : Feed} {moves : List Move} {delivery : Delivery}

theorem future_eq_cons (hhanded : (feed.run moves).1 = [delivery]) :
    feed.future = Stream'.cons delivery (feed.run moves).2.future := by
  rw [← feed.future_run moves, hhanded]
  rfl

theorem Holds.of_handed_nil (hholds : feed.Holds [])
    (hhanded : (feed.run moves).1 = [delivery]) : delivery = .ended := by
  have hfuture := hholds.2
  rw [future_eq_cons hhanded] at hfuture
  exact congrArg Stream'.head hfuture

theorem Holds.of_handed_cons {next : Delivery} {later : List Delivery}
    (hholds : feed.Holds (next :: later)) (hhanded : (feed.run moves).1 = [delivery]) :
    delivery = next ∧ (feed.run moves).2.Holds later := by
  have hfuture := hholds.2
  rw [future_eq_cons hhanded] at hfuture
  refine ⟨congrArg Stream'.head hfuture, ?_, congrArg Stream'.tail hfuture⟩
  exact fun hmem => hholds.1 (List.mem_cons_of_mem next hmem)

theorem exists_handed (feed : Feed) :
    ∃ moves delivery, (feed.run moves).1 = [delivery] := by
  obtain ⟨delivery, hdelivery⟩ := Option.isSome_iff_exists.mp feed.isSome_receive_of_ready
  refine ⟨[.ask, .read, .handOver, .stop, .receive], delivery, ?_⟩
  simp [run, move, hdelivery]

end Feed

theorem Delivery.input?_eq_none_iff {delivery : Delivery} :
    delivery.input? = none ↔ delivery = .ended := by
  cases delivery <;> simp [input?]

variable {Output : Type}

theorem Run.andThen_of_ne_done {first : Run Output} (second : State → Run Output)
    (hverdict : first.verdict ≠ .done) : first.andThen second = first := by
  obtain ⟨transcript, state, verdict⟩ := first
  cases verdict with
  | done => exact (hverdict rfl).elim
  | failed failure => rfl
  | exited code => rfl

theorem Run.andThen_eq_at (first : Run Output) (second : State → Run Output) :
    first.andThen second = first.andThen fun _ => second first.state := rfl

namespace Session

variable (session : Session Output)

/-- What a session can leave that reads from a feed. -/
inductive Fed : Feed → State → Run Output → Prop
  | closed {feed : Feed} {state : State} :
      state.cancelled = true → Fed feed state (.idle state)
  | ended {feed : Feed} {state : State} {moves : List Feed.Move} {delivery : Delivery} :
      state.cancelled = false → (feed.run moves).1 = [delivery] →
      delivery.input? = none → Fed feed state (session.turn none state)
  | stopped {feed : Feed} {state : State} {moves : List Feed.Move} {delivery : Delivery}
      {input : Input} :
      state.cancelled = false → (feed.run moves).1 = [delivery] →
      delivery.input? = some input →
      (session.turn (some input) state).verdict ≠ .done →
      Fed feed state (session.turn (some input) state)
  | turn {feed : Feed} {state : State} {moves : List Feed.Move} {delivery : Delivery}
      {input : Input} {rest : Run Output} :
      state.cancelled = false → (feed.run moves).1 = [delivery] →
      delivery.input? = some input →
      (session.turn (some input) state).verdict = .done →
      Fed (feed.run moves).2 (session.turn (some input) state).state rest →
      Fed feed state ((session.turn (some input) state).andThen fun _ => rest)

variable {session}

theorem Fed.eq_loop {feed : Feed} {state : State} {run : Run Output}
    (hfed : session.Fed feed state run) {deliveries : List Delivery}
    (hholds : feed.Holds deliveries) :
    run = session.loop (deliveries.filterMap Delivery.input?) state := by
  induction hfed generalizing deliveries with
  | closed hcancelled => exact (session.loop_of_cancelled _ hcancelled).symm
  | ended hopen hhanded hnone =>
      have hended := Delivery.input?_eq_none_iff.mp hnone
      cases deliveries with
      | nil => simp [loop, hopen]
      | cons next later =>
          obtain ⟨rfl, _⟩ := hholds.of_handed_cons hhanded
          exact (hholds.1 (by simp [hended])).elim
  | stopped hopen hhanded hinput hverdict =>
      cases deliveries with
      | nil =>
          rw [hholds.of_handed_nil hhanded] at hinput
          contradiction
      | cons next later =>
          obtain ⟨rfl, _⟩ := hholds.of_handed_cons hhanded
          rw [List.filterMap_cons_some hinput, loop, if_neg (by simp [hopen]),
            Run.andThen_of_ne_done _ hverdict]
  | turn hopen hhanded hinput hverdict _ ih =>
      cases deliveries with
      | nil =>
          rw [hholds.of_handed_nil hhanded] at hinput
          contradiction
      | cons next later =>
          obtain ⟨rfl, hlater⟩ := hholds.of_handed_cons hhanded
          rw [List.filterMap_cons_some hinput, loop, if_neg (by simp [hopen]), ih hlater,
            ← Run.andThen_eq_at]

variable (session) in
theorem fed_loop {deliveries : List Delivery} {feed : Feed}
    (hholds : feed.Holds deliveries) (state : State) :
    session.Fed feed state (session.loop (deliveries.filterMap Delivery.input?) state) := by
  induction deliveries generalizing feed state with
  | nil =>
      cases hcancelled : state.cancelled with
      | true =>
          rw [session.loop_of_cancelled _ hcancelled]
          exact .closed hcancelled
      | false =>
          obtain ⟨moves, delivery, hhanded⟩ := feed.exists_handed
          have hended := hholds.of_handed_nil hhanded
          rw [List.filterMap_nil, loop, if_neg (by simp [hcancelled])]
          exact .ended hcancelled hhanded (Delivery.input?_eq_none_iff.mpr hended)
  | cons next later ih =>
      cases hcancelled : state.cancelled with
      | true =>
          rw [session.loop_of_cancelled _ hcancelled]
          exact .closed hcancelled
      | false =>
          obtain ⟨moves, delivery, hhanded⟩ := feed.exists_handed
          obtain ⟨rfl, hlater⟩ := hholds.of_handed_cons hhanded
          cases hinput : delivery.input? with
          | none =>
              have hended := Delivery.input?_eq_none_iff.mp hinput
              exact (hholds.1 (by simp [hended])).elim
          | some input =>
              rw [List.filterMap_cons_some hinput, loop, if_neg (by simp [hcancelled])]
              by_cases hverdict : (session.turn (some input) state).verdict = .done
              · rw [Run.andThen_eq_at]
                exact .turn hcancelled hhanded hinput hverdict (ih hlater _)
              · rw [Run.andThen_of_ne_done _ hverdict]
                exact .stopped hcancelled hhanded hinput hverdict

/-- However its reader and its turns interleave, a session at the feed of a stream leaves
what the loop leaves on the inputs of the stream. -/
theorem fed_iff (bytes : List UInt8) (state : State) (run : Run Output) :
    session.Fed { unread := bytes } state run ↔
      run = session.loop (LineFeed.inputs bytes) state := by
  have hholds := Feed.holds_deliveries bytes
  constructor
  · intro hfed
    exact hfed.eq_loop hholds
  · rintro rfl
    exact session.fed_loop hholds state

end Session

end

/-! ## Schedules of the program -/

namespace Program

def left (launch : Launch) (options : Options) (settings : Settings)
    (session : Run String) : Result :=
  { output := String.join
      (opening launch options settings ++ session.transcript.outputs)
    exitCode := sessionCode session.verdict
    error := sessionError session.verdict
    log := session.transcript.records }

def prepared (launch : Launch) (options : Options) (settings : Settings) :
    Session String × List LogRecord :=
  Session.prepare (surroundings launch options) settings Catalog.linked

/-- What a run of the program can leave, whatever the order in which its reader and its
session make their moves. -/
inductive CanLeave (launch : Launch) (bytes : List UInt8) : Result → Prop
  | refused {result : Result} :
      configure launch = .error result → CanLeave launch bytes result
  | served {options : Options} {settings : Settings} {loop : Run String} :
      configure launch = .ok (options, settings) →
      (prepared launch options settings).1.Fed { unread := bytes }
        ((prepared launch options settings).1.initialState false) loop →
      CanLeave launch bytes (left launch options settings
        ((prepared launch options settings).1.enclose
          (prepared launch options settings).2 loop))

theorem serve_eq_left (launch : Launch) (options : Options) (settings : Settings)
    (input : List Input) :
    serve launch options settings input =
      left launch options settings
        ((prepared launch options settings).1.enclose (prepared launch options settings).2
          ((prepared launch options settings).1.loop input
            ((prepared launch options settings).1.initialState false))) := by
  have hrun := Session.runFrom_eq (surroundings launch options) settings Catalog.linked
    false input
  unfold serve
  rw [hrun]
  rfl

theorem canLeave_iff (launch : Launch) (bytes : List UInt8) (result : Result) :
    CanLeave launch bytes result ↔ result = run launch bytes := by
  constructor
  · intro hleave
    cases hleave with
    | refused hconfigured => simp only [run, hconfigured]
    | served hconfigured hfed =>
        rw [(Session.fed_iff bytes _ _).mp hfed]
        simp only [run, hconfigured, serve_eq_left]
  · rintro rfl
    cases hconfigured : configure launch with
    | error result =>
        simp only [run, hconfigured]
        exact .refused hconfigured
    | ok configured =>
        obtain ⟨options, settings⟩ := configured
        simp only [run, hconfigured, serve_eq_left]
        exact .served hconfigured ((Session.fed_iff bytes _ _).mpr rfl)

end Program

/-! ## The program and its recording -/

def Call.redirected : Call → String
  | .clear => "\x1b[2J\x1b[1;1H"
  | call => call.plainText

def Call.Untitled (call : Call) : Prop :=
  ∀ text, call ≠ .title text

theorem Call.OfCommand.untitled {call : Call} (hcall : call.OfCommand) :
    call.Untitled := by
  rintro text rfl
  exact hcall

theorem Terminal.write_eq_redirected {terminal : Terminal}
    (hplain : terminal.colors = false) {call : Call} (hcall : call.Untitled) :
    terminal.write call = call.redirected := by
  cases call with
  | title text => exact (hcall text rfl).elim
  | clear => rfl
  | writeColored text color => exact colored_of_colors_false hplain text color
  | writeLineColored text color =>
      exact congrArg (· ++ "\n") (colored_of_colors_false hplain text color)
  | warning text => exact congrArg (· ++ "\n") (colored_of_colors_false hplain text _)
  | error text => exact congrArg (· ++ "\n") (colored_of_colors_false hplain text _)
  | write text => rfl
  | writeLine text => rfl

namespace Session

theorem prepare_linked_shows_untitled (policy : ExitPolicy) (settings : Settings) :
    (prepare ⟨Console.recorder, policy⟩ settings Catalog.linked).1.Shows Call.Untitled := by
  constructor
  · simp [prepare, Console.recorder, Call.Untitled]
  · simp [prepare, Console.recorder, Call.Untitled]
  · simp [prepare, Console.recorder, Call.Untitled]
  · intro line state call hmem
    have hcommand := Session.ofCommand_of_dispatch policy settings line state call hmem
    exact hcommand.untitled

end Session

namespace Program

theorem recording_outlived (settings : Settings) (inputs : List Input) :
    (Session.runFrom .recording settings Catalog.linked false inputs).Outlives
      (recording settings inputs) :=
  Session.runFrom_outlives Console.recorder settings
    (Session.prepare_linked_exitsLast ⟨Console.recorder, .endProcess⟩ settings) false inputs

/-- A redirected output is the recording of the session, each call written as its text.
The session records on the inputs that the pieces of the stream stand for, with a host
that only notes an exit; with one that ends the process the same happens. -/
theorem redirected_output_renders_recording {launch : Launch} {options : Options}
    {settings : Settings} (hconfigured : configure launch = .ok (options, settings))
    (hredirected : launch.interactive = false) (bytes : List UInt8) :
    ∃ pieces delivered,
      LineFeed.Cut bytes pieces ∧ LineFeed.Delivers pieces delivered ∧
      let recorded := fun policy : ExitPolicy =>
        (Session.runFrom ⟨Console.recorder, policy⟩ settings Catalog.linked false
          (delivered.filterMap Delivery.input?)).transcript
      (recorded .endProcess).events = (recorded .cancelToken).events ∧
      (∃ result, CanLeave launch bytes result) ∧
      ∀ result, CanLeave launch bytes result →
        result.output =
          String.join ((recorded .cancelToken).outputs.map Call.redirected) := by
  obtain ⟨pieces, hcut, hdelivers⟩ := LineFeed.delivers_iff.mpr
    (rfl : LineFeed.deliveries bytes = LineFeed.deliveries bytes)
  refine ⟨pieces, LineFeed.deliveries bytes, hcut, hdelivers, ?_⟩
  intro recorded
  have hsurvivor := recording_outlived settings (LineFeed.inputs bytes)
  have houtputs : (recorded .cancelToken).outputs = (recorded .endProcess).outputs :=
    hsurvivor.outputs
  refine ⟨hsurvivor.events.symm, ⟨_, (canLeave_iff launch bytes _).mpr rfl⟩, ?_⟩
  intro result hleave
  have hcolors : (terminal launch options).colors = false := by
    rw [colors_terminal, hredirected, Bool.false_and]
  have hcalls : calls launch settings (LineFeed.inputs bytes) =
      (recorded .endProcess).outputs := by
    simp [calls, hredirected]
    rfl
  have hwritten : (recorded .endProcess).outputs.map (terminal launch options).write =
      (recorded .endProcess).outputs.map Call.redirected := by
    apply List.map_congr_left
    intro call hmem
    have hshows := Session.prepare_linked_shows_untitled .endProcess settings
    have huntitled := hshows.runFrom false (LineFeed.inputs bytes) call hmem
    exact Terminal.write_eq_redirected hcolors huntitled
  rw [(canLeave_iff launch bytes result).mp hleave, run, hconfigured]
  simp only [serve_eq, hcalls, Terminal.writeAll]
  rw [hwritten, houtputs]

def clearExitBytes : List UInt8 := [99, 108, 115, 10, 101, 120, 105, 116, 10, 255, 10]

theorem redirected_output_of_clear_exit :
    configure pipedLaunch = .ok ({}, { appVersion := version }) ∧
      pipedLaunch.interactive = false ∧
      ∃ result, CanLeave pipedLaunch clearExitBytes result ∧
        result.output = "ReplConsole Version 0.4.0\n\n> \x1b[2J\x1b[1;1H> Bye...\n" := by
  obtain ⟨pieces, delivered, hcut, hdelivers, _, ⟨result, hleave⟩, houtput⟩ :=
    redirected_output_renders_recording configure_pipedLaunch rfl clearExitBytes
  have hinputs : delivered.filterMap Delivery.input? =
      [.line "cls", .line "exit", .failure Delivery.invalidMessage] := by
    rw [LineFeed.delivers_iff.mp ⟨pieces, hcut, hdelivers⟩]
    decide +kernel
  refine ⟨configure_pipedLaunch, rfl, result, hleave, ?_⟩
  rw [houtput result hleave]
  simp only [hinputs]
  decide +kernel

/-! ## The exit code -/

structure CannotRead (result : Result) : Prop where
  exitCode : result.exitCode = 1
  error : result.error = some "failed to read command line"

structure Parts (result : Result) : Prop where
  exitCode : result.exitCode = 0
  error : result.error = none
  output : ∃ before, result.output = before ++ "Bye...\n"

variable (launch : Launch) (options : Options) (settings : Settings)

theorem serve_cannotRead {bytes : List UInt8} (hfails : LineFeed.FailsToRead bytes) :
    CannotRead (serve launch options settings (LineFeed.inputs bytes)) := by
  have hsession := Session.prepare_linked_parting settings
  have hstart := (Session.prepare .recording settings
    Catalog.linked).1.cancelled_initialState false
  have hmeets := hsession.meetsFailure_of_failsToRead hstart hfails
  have hsurvivor := (recording_outlived settings (LineFeed.inputs bytes)).verdict
  have hrecorded : (Session.runFrom .recording settings Catalog.linked false
      (LineFeed.inputs bytes)).verdict =
      .failed (Session.readFailure Delivery.invalidMessage) := by
    rw [Session.runFrom_eq]
    exact (Session.loop_failed_iff _ _ _).mpr ⟨_, hmeets, rfl⟩
  have hverdict := Verdict.eq_failed_of_outlived (hsurvivor.symm.trans hrecorded)
  constructor
  · rw [serve_eq, hverdict]
    rfl
  · rw [serve_eq, hverdict]
    rfl

theorem sessionCode_of_outlived {survivor ended : Run Call}
    (hrun : survivor.Outlives ended) (hdone : survivor.verdict = .done)
    (hcodes : survivor.transcript.exitCodes = [Builtin.successCode]) :
    sessionCode ended.verdict = 0 ∧ sessionError ended.verdict = none := by
  have hverdict := hrun.verdict
  rw [hdone] at hverdict
  cases hcase : ended.verdict with
  | done => exact ⟨rfl, rfl⟩
  | failed failure => simp [hcase, Verdict.outlived] at hverdict
  | exited code =>
      -- the process ends with the code that its recording noted last
      have hlast := (hrun.exit code hcase).2
      rw [hcodes, List.getLast?_singleton, Option.some.injEq] at hlast
      rw [← hlast]
      exact ⟨rfl, rfl⟩

theorem serve_parts {bytes : List UInt8} (hreads : ¬ LineFeed.FailsToRead bytes) :
    Parts (serve launch options settings (LineFeed.inputs bytes)) := by
  have hsession := Session.prepare_linked_parting settings
  have hsurvivor := recording_outlived settings (LineFeed.inputs bytes)
  have hstart := (Session.prepare .recording settings
    Catalog.linked).1.cancelled_initialState false
  obtain ⟨ended, hloop⟩ := hsession.endsInExit_of_not_failsToRead hstart hreads
  have hend := hloop.enclose (Session.prepare .recording settings Catalog.linked).2
    hsession.around
  rw [← Session.runFrom_eq] at hend
  have hcode := sessionCode_of_outlived hsurvivor hend.succeeds hend.exitCodes
  obtain ⟨earlier, before, houtputs, _, _⟩ := hend.outputs
  rw [hsurvivor.outputs] at houtputs
  rw [serve_eq]
  constructor
  · exact hcode.1
  · exact hcode.2
  · refine ⟨String.join (((if launch.interactive then
      [Call.title settings.consoleTitle] else []) ++ (earlier ++ [before])).map
        (terminal launch options).write), ?_⟩
    simp [Terminal.writeAll, calls, houtputs, Terminal.write, Builtin.farewell,
      String.append_assoc]

theorem serve_exitCode_eq_iff (bytes : List UInt8) :
    (serve launch options settings (LineFeed.inputs bytes)).exitCode = 1 ↔
      LineFeed.FailsToRead bytes := by
  constructor
  · intro hcode
    by_contra hreads
    rw [(serve_parts launch options settings hreads).exitCode] at hcode
    contradiction
  · intro hfails
    exact (serve_cannotRead launch options settings hfails).exitCode

theorem serve_exitCode_congr (other : Launch) (otherOptions : Options)
    (otherSettings : Settings) {bytes otherBytes : List UInt8}
    (hsame : LineFeed.FailsToRead otherBytes ↔ LineFeed.FailsToRead bytes) :
    (serve other otherOptions otherSettings (LineFeed.inputs otherBytes)).exitCode =
      (serve launch options settings (LineFeed.inputs bytes)).exitCode := by
  by_cases hfails : LineFeed.FailsToRead bytes
  · rw [(serve_cannotRead launch options settings hfails).exitCode,
      (serve_cannotRead other otherOptions otherSettings (hsame.mpr hfails)).exitCode]
  · have hreads := fun hother => hfails (hsame.mp hother)
    rw [(serve_parts launch options settings hfails).exitCode,
      (serve_parts other otherOptions otherSettings hreads).exitCode]

/-- The exit code of a run, however its reader and its session interleave.  Once the
options are read and the configuration is loaded, the code depends only on whether the
stream can be read: not on the settings and the sources that they name, and not on the
commands that the lines spell. -/
theorem exit_code_classified (bytes : List UInt8) :
    (∃ result, CanLeave launch bytes result) ∧
    ∀ result, CanLeave launch bytes result →
      match Options.parse launch.arguments launch.env with
      | .error .displayHelp => result.exitCode = 0
      | .error .displayVersion => result.exitCode = 0
      | .error _ => result.exitCode = 2 ∧ result.output = ""
      | .ok options =>
        match Config.load launch.files "." options.config options.environment with
        | .error _ =>
          result.exitCode = 1 ∧ result.error = some "failed to load configuration" ∧
            result.output = ""
        | .ok _ =>
          (CannotRead result ↔ LineFeed.FailsToRead bytes) ∧
          (¬ LineFeed.FailsToRead bytes → Parts result) ∧
          ∀ (otherOptions : Options) (otherSettings : Settings) (otherBytes : List UInt8),
            (LineFeed.FailsToRead otherBytes ↔ LineFeed.FailsToRead bytes) →
            (serve launch otherOptions otherSettings
              (LineFeed.inputs otherBytes)).exitCode = result.exitCode := by
  refine ⟨⟨_, (canLeave_iff launch bytes _).mpr rfl⟩, ?_⟩
  intro result hleave
  have hresult := (canLeave_iff launch bytes result).mp hleave
  cases hparse : Options.parse launch.arguments launch.env with
  | error error =>
      simp only [run, configure, hparse] at hresult
      subst hresult
      cases error <;> simp [refuse, usageCode]
  | ok options =>
      simp only [run, configure, hparse] at hresult
      cases hload : Config.load launch.files "." options.config options.environment with
      | error error =>
          simp only [hload] at hresult ⊢
          subst hresult
          exact ⟨rfl, rfl, rfl⟩
      | ok found =>
          simp only [hload] at hresult ⊢
          subst hresult
          refine ⟨⟨?_, serve_cannotRead launch options _⟩, serve_parts launch options _, ?_⟩
          · intro hcannot
            exact (serve_exitCode_eq_iff launch options _ bytes).mp hcannot.exitCode
          · intro otherOptions otherSettings otherBytes hsame
            exact serve_exitCode_congr launch options _ launch otherOptions otherSettings
              hsame

end Program

end CommandShell
