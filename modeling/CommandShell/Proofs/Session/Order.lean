import CommandShell.Proofs.Session.Course

/-! # Inputs are handled once and in order -/

namespace CommandShell
namespace Session

variable {Output : Type} (session : Session Output)

theorem inputs_episode (line : CommandLine) (state : State) :
    (session.episode line state).inputs = [] := by
  have hrun := session.shell.dispatch_byCommand session.around line state
  have hfailure := Transcript.inputs_of_telling (session.failureEntries_telling line
    (session.shell.dispatch session.around line state).verdict)
  simp [episode, hrun.inputs, hfailure]

theorem dispatches_episode (line : CommandLine) (state : State) :
    (session.episode line state).dispatches = [line] := by
  have hrun := session.shell.dispatch_byCommand session.around line state
  have hfailure := Transcript.dispatches_of_telling (session.failureEntries_telling line
    (session.shell.dispatch session.around line state).verdict)
  simp [episode, hrun.dispatches, hfailure]

@[simp] theorem inputs_reading (state : State) (input : Option Input) :
    (session.reading state input).inputs = [input] := rfl

@[simp] theorem dispatches_reading (state : State) (input : Option Input) :
    (session.reading state input).dispatches = [] := rfl

theorem inputs_exchange (state : State) (input : Input) :
    (session.exchange state input).inputs = [some input] := by
  cases input with
  | failure message => rfl
  | interrupt => rfl
  | line text =>
      cases hline : CommandLine.parse? text with
      | none => rw [exchange_blank session state hline, inputs_reading]
      | some line =>
          rw [exchange_line session state hline, Transcript.inputs_append,
            inputs_reading, inputs_episode, List.append_nil]

theorem dispatches_exchange (state : State) (input : Input) :
    (session.exchange state input).dispatches = input.commandLine?.toList := by
  cases input with
  | failure message => rfl
  | interrupt => rfl
  | line text =>
      cases hline : CommandLine.parse? text with
      | none =>
          rw [exchange_blank session state hline, dispatches_reading,
            Input.commandLine?, hline]
          rfl
      | some line =>
          rw [exchange_line session state hline, Transcript.dispatches_append,
            dispatches_reading, dispatches_episode, Input.commandLine?, hline]
          rfl

theorem inputs_account (state : State) (inputs : List Input) :
    (session.account state inputs).inputs = inputs.map some := by
  induction inputs generalizing state with
  | nil => rfl
  | cons input rest ih =>
      rw [account, Transcript.inputs_append, inputs_exchange, ih]
      rfl

theorem dispatches_account (state : State) (inputs : List Input) :
    (session.account state inputs).dispatches =
      inputs.filterMap Input.commandLine? := by
  induction inputs generalizing state with
  | nil => rfl
  | cons input rest ih =>
      rw [account, Transcript.dispatches_append, dispatches_exchange, ih]
      cases hline : input.commandLine? with
      | none => rw [List.filterMap_cons_none hline]; rfl
      | some line => rw [List.filterMap_cons_some hline]; rfl

theorem inputs_lastExchange (state : State) :
    (session.lastExchange state).inputs = [none] := by
  simp [lastExchange_eq, inputs_episode]

theorem dispatches_lastExchange (state : State) :
    (session.lastExchange state).dispatches = [exitLine] := by
  simp [lastExchange_eq, dispatches_episode]

theorem outputs_preface (log : List LogRecord) :
    (session.preface log).outputs =
      [session.around.console.render (.writeLine session.settings.banner)] := by
  simp [preface]

/-- What the loop leaves of its inputs: those that it handled, each with its
exchange, and the last exchange if it met the end of input. -/
theorem loop_handles (inputs : List Input) (state : State) :
    ∃ handled rest, ∃ ended : Bool,
      inputs = handled ++ rest ∧
      (∀ earlier input later, handled = earlier ++ input :: later →
        session.Open state earlier) ∧
      (session.Open state handled ↔ ended = true) ∧
      (ended = true → rest = []) ∧
      (session.loop inputs state).transcript =
        session.account state handled ++
          if ended then session.lastExchange (session.after state handled)
          else [] := by
  have hcourse := session.loop_course inputs state
  generalize session.loop inputs state = run at hcourse
  cases hcourse with
  | unopened _ hcancelled =>
      refine ⟨[], inputs, false, rfl, by simp, ?_, by simp, rfl⟩
      simp [open_nil_iff, hcancelled]
  | ended _ hopen =>
      refine ⟨inputs, [], true, by simp, ?_, by simp [hopen], by simp, rfl⟩
      rintro earlier input later rfl
      exact ((session.open_append_iff state earlier _).mp hopen).1
  | stopped earlier input later hearlier hclosed =>
      refine ⟨earlier ++ [input], later, false, by simp, ?_, by simp [hclosed],
        by simp, by simp⟩
      intro first next others heq
      -- a proper first part of `earlier ++ [input]` is a first part of `earlier`
      have hinit : earlier = first ++ (next :: others).dropLast := by
        have hdrop := congrArg List.dropLast heq
        rwa [List.dropLast_concat, List.dropLast_append_of_ne_nil (by simp)] at hdrop
      rw [hinit] at hearlier
      exact ((session.open_append_iff state first _).mp hearlier).1

/-- A session handles its inputs exactly once and in order.  It reads a first part
of them, up to the first input that leaves it closed or to the end of input; it
dispatches the command lines that these spell, and `exit` at the end of input; and
what it does is the exchanges of these reads, one after another. -/
theorem runFrom_handles_in_order (around : Surroundings Output) (settings : Settings)
    (catalog : Catalog) (cancelled : Bool) (inputs : List Input) :
    let session := (Session.prepare around settings catalog).1
    let log := (Session.prepare around settings catalog).2
    let start := session.initialState cancelled
    let run := Session.runFrom around settings catalog cancelled inputs
    ∃ handled rest, ∃ ended : Bool,
      inputs = handled ++ rest ∧
      (∀ earlier input later, handled = earlier ++ input :: later →
        session.Open start earlier) ∧
      (session.Open start handled ↔ ended = true) ∧
      (ended = true → rest = []) ∧
      run.transcript.inputs = handled.map some ++ (if ended then [none] else []) ∧
      run.transcript.dispatches =
        handled.filterMap Input.commandLine? ++ (if ended then [exitLine] else []) ∧
      run.transcript =
        session.preface log ++
          (session.account start handled ++
            if ended then session.lastExchange (session.after start handled) else []) ++
          (closing run.verdict).map .logged ∧
      run.transcript.outputs =
        around.console.render (.writeLine settings.banner) ::
          ((session.account start handled).outputs ++
            if ended then (session.lastExchange (session.after start handled)).outputs
            else []) := by
  intro session log start run
  obtain ⟨handled, rest, ended, hinputs, hearlier, hended, hrest, hloop⟩ :=
    session.loop_handles inputs start
  have hrun : run = session.enclose log (session.loop inputs start) :=
    Session.runFrom_eq around settings catalog cancelled inputs
  have htranscript : run.transcript =
      session.preface log ++
        (session.account start handled ++
          if ended then session.lastExchange (session.after start handled) else []) ++
        (closing run.verdict).map .logged := by
    rw [← hloop, hrun]
    rfl
  refine ⟨handled, rest, ended, hinputs, hearlier, hended, hrest, ?_, ?_,
    htranscript, ?_⟩
  · have hpreface := Transcript.inputs_of_telling (session.preface_telling log)
    rw [htranscript]
    cases ended <;> simp [hpreface, inputs_account, inputs_lastExchange]
  · have hpreface := Transcript.dispatches_of_telling (session.preface_telling log)
    rw [htranscript]
    cases ended <;> simp [hpreface, dispatches_account, dispatches_lastExchange]
  · rw [htranscript]
    cases ended <;> simp [outputs_preface] <;> rfl

end Session
end CommandShell
