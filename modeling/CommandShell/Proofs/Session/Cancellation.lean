import CommandShell.Proofs.Session.Order

/-!
# Cancellation is final

A session that is open has no cancellation in its account, so the first one stands in the
last exchange, and what follows it there is the rest of one dispatch.
-/

namespace CommandShell

variable {Output : Type}

theorem Transcript.split_right {first second before after : Transcript Output}
    {entry : Entry Output} (hsplit : first ++ second = before ++ entry :: after)
    (hnot : entry ∉ first) :
    ∃ between, before = first ++ between ∧ second = between ++ entry :: after := by
  rcases List.append_eq_append_iff.mp hsplit with
    ⟨between, hbefore, hsecond⟩ | ⟨between, hfirst, hafter⟩
  · exact ⟨between, hbefore, hsecond⟩
  · cases between with
    | nil =>
        refine ⟨[], ?_, hafter.symm⟩
        rw [List.append_nil] at hfirst ⊢
        exact hfirst.symm
    | cons other between =>
        rw [List.cons_append, List.cons.injEq] at hafter
        rw [hfirst, hafter.1] at hnot
        simp at hnot

theorem Transcript.split_left {first second before after : Transcript Output}
    {entry : Entry Output} (hsplit : first ++ second = before ++ entry :: after)
    (hnot : entry ∉ second) :
    ∃ between, first = before ++ entry :: between ∧ after = between ++ second := by
  rcases List.append_eq_append_iff.mp hsplit with
    ⟨between, _, hsecond⟩ | ⟨between, hfirst, hafter⟩
  · rw [hsecond] at hnot
    simp at hnot
  · cases between with
    | nil =>
        rw [List.nil_append] at hafter
        rw [← hafter] at hnot
        simp at hnot
    | cons other between =>
        rw [List.cons_append, List.cons.injEq] at hafter
        rw [hafter.1]
        exact ⟨between, hfirst, hafter.2⟩

theorem Transcript.not_cancelled_map_logged (log : List LogRecord) :
    .cancelled ∉ (log.map .logged : Transcript Output) := by
  simp

namespace Session

variable (session : Session Output)

theorem cancelled_mem_episode_iff (line : CommandLine) (state : State) :
    .cancelled ∈ session.episode line state ↔
      .cancelled ∈ (session.shell.dispatch session.around line state).transcript := by
  have hfailure := Transcript.not_cancelled_of_telling
    (session.failureEntries_telling line
      (session.shell.dispatch session.around line state).verdict)
  simp [episode, hfailure]

theorem not_cancelled_reading (state : State) (input : Option Input) :
    .cancelled ∉ session.reading state input := by
  simp [reading]

theorem cancelled_stateAfter_iff (state : State) (input : Input) :
    (session.stateAfter state input).cancelled = true ↔
      state.cancelled = true ∨ .cancelled ∈ session.exchange state input := by
  cases input with
  | failure message => simp [stateAfter, exchange]
  | interrupt => simp [stateAfter, exchange]
  | line text =>
      cases hline : CommandLine.parse? text with
      | none => simp [stateAfter, exchange, hline]
      | some line =>
          have hrun := session.shell.dispatch_byCommand session.around line state
          simp [stateAfter, exchange, hline, hrun.cancelled_iff,
            cancelled_mem_episode_iff]

theorem cancelled_after_iff (state : State) (inputs : List Input) :
    (session.after state inputs).cancelled = true ↔
      state.cancelled = true ∨ .cancelled ∈ session.account state inputs := by
  induction inputs generalizing state with
  | nil => simp [account]
  | cons input rest ih =>
      rw [after_cons, ih, cancelled_stateAfter_iff, account, List.mem_append, or_assoc]

theorem cancelled_mem_lastExchange_iff (state : State) :
    .cancelled ∈ session.lastExchange state ↔
      .cancelled ∈
        (session.shell.dispatch session.around exitLine state).transcript := by
  simp [lastExchange, cancelled_mem_episode_iff]

variable {session}

theorem Open.not_cancelled_account {state : State} {inputs : List Input}
    (hopen : session.Open state inputs) :
    .cancelled ∉ session.account state inputs := by
  intro hmem
  have hafter := (session.cancelled_after_iff state inputs).mpr (Or.inr hmem)
  rw [hopen.2] at hafter
  contradiction

variable (session) in
theorem loop_cancelled_iff (inputs : List Input) (state : State) :
    (session.loop inputs state).state.cancelled = true ↔
      state.cancelled = true ∨
        .cancelled ∈ (session.loop inputs state).transcript := by
  have hcourse := session.loop_course inputs state
  generalize session.loop inputs state = run at hcourse
  cases hcourse with
  | unopened _ hcancelled => simp [Run.idle]
  | ended _ hopen =>
      have hrun := session.shell.dispatch_byCommand session.around exitLine
        (session.after state inputs)
      rw [hrun.cancelled_iff, cancelled_after_iff, List.mem_append,
        cancelled_mem_lastExchange_iff, or_assoc]
  | stopped earlier input later hearlier hclosed =>
      exact session.cancelled_after_iff state (earlier ++ [input])

/-! ## What follows a cancellation -/

theorem episode_split {line : CommandLine} {state : State}
    {before after : Transcript Output}
    (hsplit : session.episode line state = before ++ .cancelled :: after) :
    ∃ ran pending,
      before = .dispatched line :: ran ∧
      (session.shell.dispatch session.around line state).transcript =
        ran ++ .cancelled :: pending ∧
      after = pending ++ session.failureEntries line
        (session.shell.dispatch session.around line state).verdict := by
  have hcons : session.episode line state =
      [.dispatched line] ++
        ((session.shell.dispatch session.around line state).transcript ++
          session.failureEntries line
            (session.shell.dispatch session.around line state).verdict) := rfl
  rw [hcons] at hsplit
  obtain ⟨ran, hbefore, hrest⟩ := Transcript.split_right hsplit (by simp)
  obtain ⟨pending, htranscript, hafter⟩ := Transcript.split_left hrest
    (Transcript.not_cancelled_of_telling (session.failureEntries_telling line _))
  exact ⟨ran, pending, hbefore, htranscript, hafter⟩

variable (session) in
/-- What may stand around a cancellation in a session: it is an interrupted read,
with nothing after it, or it is made by a dispatch, of which the rest follows and
then the report of its failure if it fails. -/
def AroundCancellation (start : State) (before after : Transcript Output) : Prop :=
  (∃ earlier, before = earlier ++ [.read (some .interrupt)] ∧ after = []) ∨
    ∃ handled line earlier ran pending,
      session.Open start handled ∧
      before = earlier ++ .dispatched line :: ran ∧
      (session.shell.dispatch session.around line
        (session.after start handled)).transcript = ran ++ .cancelled :: pending ∧
      after = pending ++ session.failureEntries line
        (session.shell.dispatch session.around line
          (session.after start handled)).verdict

theorem aroundCancellation_of_episode {start : State} {handled : List Input}
    {line : CommandLine} {earlier before after : Transcript Output}
    (hopen : session.Open start handled)
    (hnot : .cancelled ∉ earlier)
    (hsplit : earlier ++ session.episode line (session.after start handled) =
      before ++ .cancelled :: after) :
    session.AroundCancellation start before after := by
  obtain ⟨between, rfl, hepisode⟩ := Transcript.split_right hsplit hnot
  obtain ⟨ran, pending, rfl, hran, hafter⟩ := episode_split hepisode
  exact Or.inr ⟨handled, line, earlier, ran, pending, hopen, rfl, hran, hafter⟩

theorem aroundCancellation_of_exchange {start : State} {handled : List Input}
    {input : Input} {earlier before after : Transcript Output}
    (hopen : session.Open start handled)
    (hnot : .cancelled ∉ earlier)
    (hsplit : earlier ++ session.exchange (session.after start handled) input =
      before ++ .cancelled :: after) :
    session.AroundCancellation start before after := by
  obtain ⟨between, rfl, hexchange⟩ := Transcript.split_right hsplit hnot
  have hmem : .cancelled ∈ session.exchange (session.after start handled) input := by
    rw [hexchange]
    simp
  cases input with
  | failure message => simp [exchange] at hmem
  | interrupt =>
      rw [exchange_interrupt] at hexchange
      obtain ⟨rest, rfl, hlast⟩ := Transcript.split_right hexchange
        (session.not_cancelled_reading _ _)
      cases rest with
      | nil =>
          rw [List.nil_append, List.cons.injEq] at hlast
          refine Or.inl ⟨earlier ++ [.shown (session.around.console.render
              (.write (session.after start handled).prompt))], ?_, hlast.2.symm⟩
          simp [reading]
      | cons entry rest => simp at hlast
  | line text =>
      cases hline : CommandLine.parse? text with
      | none => simp [exchange, hline] at hmem
      | some line =>
          rw [exchange_line session _ hline, ← List.append_assoc] at hsplit
          refine aroundCancellation_of_episode hopen ?_ hsplit
          simp [hnot, not_cancelled_reading]

theorem loop_aroundCancellation {inputs : List Input} {start : State}
    {before after : Transcript Output}
    (hsplit : (session.loop inputs start).transcript =
      before ++ .cancelled :: after) :
    session.AroundCancellation start before after := by
  have hcourse := session.loop_course inputs start
  generalize session.loop inputs start = run at hcourse hsplit
  cases hcourse with
  | unopened _ hcancelled => simp [Run.idle] at hsplit
  | ended _ hopen =>
      simp only [lastExchange_eq] at hsplit
      rw [← List.append_assoc] at hsplit
      refine aroundCancellation_of_episode hopen ?_ hsplit
      simp [hopen.not_cancelled_account, not_cancelled_reading]
  | stopped earlier input later hearlier hclosed =>
      simp only [account_append, account_singleton] at hsplit
      exact aroundCancellation_of_exchange hearlier
        hearlier.not_cancelled_account hsplit

theorem AroundCancellation.append_left {start : State}
    {before after : Transcript Output} (earlier : Transcript Output)
    (haround : session.AroundCancellation start before after) :
    session.AroundCancellation start (earlier ++ before) after := by
  rcases haround with
    ⟨first, rfl, hafter⟩ | ⟨handled, line, first, ran, pending, hopen, rfl, hran, hafter⟩
  · exact Or.inl ⟨earlier ++ first, by simp, hafter⟩
  · exact Or.inr ⟨handled, line, earlier ++ first, ran, pending, hopen, by simp,
      hran, hafter⟩

theorem AroundCancellation.quiet_after {start : State}
    {before after : Transcript Output}
    (haround : session.AroundCancellation start before after) :
    after.inputs = [] ∧ after.dispatches = [] := by
  rcases haround with
    ⟨_, _, rfl⟩ | ⟨handled, line, _, ran, pending, _, _, hran, rfl⟩
  · exact ⟨rfl, rfl⟩
  · have hrun := session.shell.dispatch_byCommand session.around line
      (session.after start handled)
    have hinputs := hrun.inputs
    have hdispatches := hrun.dispatches
    rw [hran] at hinputs hdispatches
    simp only [Transcript.inputs_append, Transcript.inputs_cons,
      List.append_eq_nil_iff] at hinputs
    simp only [Transcript.dispatches_append, Transcript.dispatches_cons,
      List.append_eq_nil_iff] at hdispatches
    have hfailure := session.failureEntries_telling line
      (session.shell.dispatch session.around line
        (session.after start handled)).verdict
    constructor
    · rw [Transcript.inputs_append, hinputs.2.2, Transcript.inputs_of_telling hfailure]
      rfl
    · rw [Transcript.dispatches_append, hdispatches.2.2,
        Transcript.dispatches_of_telling hfailure]
      rfl

/-! ## Exit codes of a session -/

theorem exitCodes_episode (line : CommandLine) (state : State) :
    (session.episode line state).exitCodes =
      (session.shell.dispatch session.around line state).transcript.exitCodes := by
  have hfailure := Transcript.exitCodes_of_telling (session.failureEntries_telling line
    (session.shell.dispatch session.around line state).verdict)
  simp [episode, hfailure]

theorem exitCodes_reading (state : State) (input : Option Input) :
    (session.reading state input).exitCodes = [] := rfl

theorem exitCodes_exchange {state : State} {input : Input}
    (hpolicy : session.around.exitPolicy ≠ .keepToken)
    (hnot : .cancelled ∉ session.exchange state input) :
    (session.exchange state input).exitCodes = [] := by
  cases input with
  | failure message => rfl
  | interrupt => rfl
  | line text =>
      cases hline : CommandLine.parse? text with
      | none => rw [exchange_blank session state hline, exitCodes_reading]
      | some line =>
          rw [exchange_line session state hline] at hnot ⊢
          have hrun := session.shell.dispatch_byCommand session.around line state
          have hquiet : .cancelled ∉
              (session.shell.dispatch session.around line state).transcript := by
            rw [← cancelled_mem_episode_iff]
            exact fun hmem => hnot (List.mem_append_right _ hmem)
          rw [Transcript.exitCodes_append, exitCodes_reading, exitCodes_episode,
            hrun.exitCodes hpolicy hquiet]
          rfl

theorem exitCodes_account {state : State} {inputs : List Input}
    (hpolicy : session.around.exitPolicy ≠ .keepToken)
    (hnot : .cancelled ∉ session.account state inputs) :
    (session.account state inputs).exitCodes = [] := by
  induction inputs generalizing state with
  | nil => rfl
  | cons input rest ih =>
      rw [account, List.mem_append, not_or] at hnot
      rw [account, Transcript.exitCodes_append, exitCodes_exchange hpolicy hnot.1,
        ih hnot.2]
      rfl

variable (session) in
theorem loop_exitCodes (inputs : List Input) (start : State)
    (hpolicy : session.around.exitPolicy ≠ .keepToken) :
    (session.loop inputs start).transcript.exitCodes = [] ∨
      ∃ handled line earlier,
        session.Open start handled ∧
        (session.loop inputs start).transcript =
          earlier ++ session.episode line (session.after start handled) ∧
        earlier.exitCodes = [] := by
  have hcourse := session.loop_course inputs start
  generalize session.loop inputs start = run at hcourse
  cases hcourse with
  | unopened _ hcancelled => exact Or.inl rfl
  | ended _ hopen =>
      refine Or.inr ⟨inputs, exitLine,
        session.account start inputs ++
          (session.reading (session.after start inputs) none ++
            [.shown (session.around.console.render (.writeLine ""))]),
        hopen, ?_, ?_⟩
      · simp only [lastExchange_eq, List.append_assoc]
      · simp [exitCodes_account hpolicy hopen.not_cancelled_account, exitCodes_reading]
  | stopped earlier input later hearlier hclosed =>
      have hnone := exitCodes_account hpolicy hearlier.not_cancelled_account
      simp only [account_append, account_singleton, Transcript.exitCodes_append, hnone,
        List.nil_append]
      cases input with
      | failure message => exact Or.inl rfl
      | interrupt => exact Or.inl rfl
      | line text =>
          cases hline : CommandLine.parse? text with
          | none =>
              left
              rw [exchange_blank session _ hline, exitCodes_reading]
          | some line =>
              refine Or.inr ⟨earlier, line,
                session.account start earlier ++
                  session.reading (session.after start earlier) (some (.line text)),
                hearlier, ?_, ?_⟩
              · rw [exchange_line session _ hline, List.append_assoc]
              · simp [hnone, exitCodes_reading]

/-! ## Whole sessions -/

variable (session) in
theorem enclose_cancelled_iff (log : List LogRecord) (inputs : List Input)
    (start : State) :
    (session.enclose log (session.loop inputs start)).state.cancelled = true ↔
      start.cancelled = true ∨
        .cancelled ∈ (session.enclose log (session.loop inputs start)).transcript := by
  have hpreface := Transcript.not_cancelled_of_telling (session.preface_telling log)
  simp only [enclose, List.mem_append, hpreface, false_or,
    Transcript.not_cancelled_map_logged, or_false]
  exact session.loop_cancelled_iff inputs start

theorem enclose_aroundCancellation {log : List LogRecord} {inputs : List Input}
    {start : State} {before after : Transcript Output}
    (hsplit : (session.enclose log (session.loop inputs start)).transcript =
      before ++ .cancelled :: after) :
    ∃ rest,
      after = rest ++ (closing (session.loop inputs start).verdict).map .logged ∧
        session.AroundCancellation start before rest := by
  obtain ⟨rest, hleft, hafter⟩ := Transcript.split_left hsplit
    (Transcript.not_cancelled_map_logged _)
  obtain ⟨inner, rfl, hinner⟩ := Transcript.split_right hleft
    (Transcript.not_cancelled_of_telling (session.preface_telling log))
  exact ⟨rest, hafter, (loop_aroundCancellation hinner).append_left _⟩

variable (session) in
theorem enclose_exitCodes (log : List LogRecord) (inputs : List Input) (start : State)
    (hpolicy : session.around.exitPolicy ≠ .keepToken) :
    let run := session.enclose log (session.loop inputs start)
    run.transcript.exitCodes = [] ∨
      ∃ handled line earlier,
        session.Open start handled ∧
        run.transcript =
          earlier ++ session.episode line (session.after start handled) ++
            (closing run.verdict).map .logged ∧
        earlier.exitCodes = [] := by
  intro run
  have hpreface := Transcript.exitCodes_of_telling (session.preface_telling log)
  rcases session.loop_exitCodes inputs start hpolicy with
    hnone | ⟨handled, line, earlier, hopen, htranscript, hearlier⟩
  · left
    simp [run, enclose, hpreface, hnone]
  · right
    refine ⟨handled, line, session.preface log ++ earlier, hopen, ?_, ?_⟩
    · simp only [run, enclose, htranscript, List.append_assoc]
    · rw [Transcript.exitCodes_append, hpreface, hearlier]
      rfl

/-- After a cancellation of the token a session only lets the command at work
finish and reports its failure: it shows no prompt, reads nothing and dispatches
nothing.  So where `exit` cancels the token all exit codes come from the last
dispatch, and a session whose token was cancelled before shows its banner only. -/
theorem runFrom_cancellation_is_final (around : Surroundings Output)
    (settings : Settings) (catalog : Catalog) (cancelled : Bool)
    (inputs : List Input) :
    let session := (Session.prepare around settings catalog).1
    let start := session.initialState cancelled
    let run := Session.runFrom around settings catalog cancelled inputs
    (run.state.cancelled = true ↔ cancelled = true ∨ .cancelled ∈ run.transcript) ∧
    (∀ before after : Transcript Output,
      run.transcript = before ++ .cancelled :: after →
      after.inputs = [] ∧ after.dispatches = [] ∧
      ∃ rest, after = rest ++ (closing run.verdict).map .logged ∧
        session.AroundCancellation start before rest) ∧
    (around.exitPolicy ≠ .keepToken →
      run.transcript.exitCodes = [] ∨
        ∃ handled line earlier,
          session.Open start handled ∧
          run.transcript =
            earlier ++ session.episode line (session.after start handled) ++
              (closing run.verdict).map .logged ∧
          earlier.exitCodes = [] ∧
          run.transcript.exitCodes =
            (session.shell.dispatch around line
              (session.after start handled)).transcript.exitCodes ∧
          run.transcript.dispatches.getLast? = some line) ∧
    (cancelled = true →
      run.transcript.outputs = [around.console.render (.writeLine settings.banner)] ∧
      run.transcript.inputs = [] ∧ run.transcript.dispatches = [] ∧
      run.transcript.exitCodes = []) := by
  intro session start run
  have hrun : run = session.enclose (Session.prepare around settings catalog).2
      (session.loop inputs start) :=
    Session.runFrom_eq around settings catalog cancelled inputs
  refine ⟨?_, ?_, ?_, ?_⟩
  · rw [hrun]
    exact session.enclose_cancelled_iff _ inputs start
  · intro before after hsplit
    rw [hrun] at hsplit ⊢
    obtain ⟨rest, rfl, haround⟩ := enclose_aroundCancellation hsplit
    refine ⟨?_, ?_, rest, rfl, haround⟩
    · simp [haround.quiet_after.1]
    · simp [haround.quiet_after.2]
  · intro hpolicy
    have hcodes := session.enclose_exitCodes
      (Session.prepare around settings catalog).2 inputs start hpolicy
    rw [← hrun] at hcodes
    rcases hcodes with hnone | ⟨handled, line, earlier, hopen, htranscript, hearlier⟩
    · exact Or.inl hnone
    · refine Or.inr ⟨handled, line, earlier, hopen, htranscript, hearlier, ?_, ?_⟩
      · rw [htranscript]
        simp only [Transcript.exitCodes_append, hearlier, exitCodes_episode,
          Transcript.exitCodes_map_logged, List.nil_append, List.append_nil]
        rfl
      · rw [htranscript]
        simp [dispatches_episode]
  · intro hcancelled
    have hidle : session.loop inputs start = .idle start :=
      session.loop_of_cancelled inputs hcancelled
    rw [hrun, hidle]
    simp [Run.idle, enclose, preface]
    rfl

end Session
end CommandShell
