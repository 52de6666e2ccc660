import CommandShell.Proofs.CommandLine.Quoting
import CommandShell.Proofs.Session.Order

/-! # Blank lines only ask again -/

namespace CommandShell
namespace Session

variable {Output : Type} {session : Session Output}

theorem loop_append_of_not_open {earlier : List Input} {state : State}
    (later : List Input) (hclosed : ¬ session.Open state earlier) :
    session.loop (earlier ++ later) state = session.loop earlier state := by
  rcases session.open_or_stops state earlier with
    hcancelled | hopen | ⟨first, input, rest, rfl, hfirst, hstop⟩
  · rw [session.loop_of_cancelled _ hcancelled, session.loop_of_cancelled _ hcancelled]
  · exact (hclosed hopen).elim
  · have hlast : ¬ session.Open (session.after state first) [input] :=
      fun hone => hstop ((session.open_append_iff state first [input]).mpr ⟨hfirst, hone⟩)
    rw [List.append_assoc, List.cons_append, loop_append _ hfirst, loop_append _ hfirst,
      Run.andThen_done, Run.andThen_done, loop_cons_of_not_open _ hfirst.2 hlast,
      loop_cons_of_not_open _ hfirst.2 hlast]

theorem length_inputs_loop_le {inputs : List Input} {state : State}
    (hclosed : ¬ session.Open state inputs) :
    (session.loop inputs state).transcript.inputs.length ≤ inputs.length := by
  obtain ⟨handled, rest, ended, rfl, _, hended, hrest, hloop⟩ :=
    session.loop_handles inputs state
  cases ended with
  | true =>
      rw [hrest rfl, List.append_nil] at hclosed
      exact (hclosed (hended.mpr rfl)).elim
  | false =>
      rw [hloop]
      simp [inputs_account]

variable (session) in
theorem exists_loop_eq_reading (inputs : List Input) {state : State}
    (hstart : state.cancelled = false) :
    ∃ input rest, (session.loop inputs state).transcript =
      session.reading state input ++ rest := by
  cases inputs with
  | nil =>
      refine ⟨none, .shown (session.around.console.render (.writeLine "")) ::
        session.episode exitLine state, ?_⟩
      rw [loop, if_neg (by simp [hstart]), turn_none]
      rfl
  | cons input rest =>
      have hexchange : ∃ caused, session.exchange state input =
          session.reading state (some input) ++ caused := ⟨_, rfl⟩
      obtain ⟨caused, hcaused⟩ := hexchange
      rw [loop, if_neg (by simp [hstart]), turn_some]
      cases session.verdictAfter state input with
      | done => exact ⟨some input, _, by rw [Run.andThen_done, hcaused, List.append_assoc]⟩
      | failed failure => exact ⟨some input, caused, hcaused⟩
      | exited code => exact ⟨some input, caused, hcaused⟩

theorem loop_blank_cons {text : String} (later : List Input) {state : State}
    (hblank : CommandLine.parse? text = none) (hstart : state.cancelled = false) :
    session.loop (.line text :: later) state =
      (Run.mk (session.reading state (some (.line text))) state .done).andThen
        (session.loop later) := by
  have hafter : session.stateAfter state (.line text) = state := by
    simp only [stateAfter, hblank]
  have hdone : session.verdictAfter state (.line text) = .done := by
    simp only [verdictAfter, hblank]
  rw [loop, if_neg (by simp [hstart]), turn_some, exchange_blank session state hblank,
    hafter, hdone]

/-- A line without a command behind inputs that leave the session open: the entries of
one more read, before those of the read that follows the inputs anyway. -/
theorem loop_insert_blank {earlier : List Input} {text : String} {start : State}
    (later : List Input) (hblank : CommandLine.parse? text = none)
    (hopen : session.Open start earlier) :
    let last := session.after start earlier
    ∃ input rest,
      (session.loop (earlier ++ later) start).transcript =
        session.account start earlier ++ (session.reading last input ++ rest) ∧
      session.loop (earlier ++ .line text :: later) start =
        { session.loop (earlier ++ later) start with
          transcript := session.account start earlier ++
            (session.reading last (some (.line text)) ++
              (session.reading last input ++ rest)) } := by
  intro last
  obtain ⟨input, rest, hnext⟩ := session.exists_loop_eq_reading later hopen.2
  refine ⟨input, rest, ?_, ?_⟩
  · rw [loop_append later hopen, Run.andThen_done, hnext]
  · rw [loop_append later hopen, loop_append (.line text :: later) hopen,
      Run.andThen_done, Run.andThen_done, loop_blank_cons later hblank hopen.2,
      Run.andThen_done, hnext]

/-! ## Whole sessions -/

/-- A line is blank just if all its characters are.  With one more blank line between
some inputs, a session dispatches, logs and exits the same and ends alike.  If it comes
to the read after the earlier inputs, its transcript is the other one with the prompt of
that read and the read of the blank line put before that prompt, and so the console shows
the same with this one prompt doubled; otherwise the session is the same altogether. -/
theorem runFrom_blank_line_only_asks_again (around : Surroundings Output)
    (settings : Settings) (catalog : Catalog) (cancelled : Bool)
    (earlier later : List Input) (text : String) :
    let session := (Session.prepare around settings catalog).1
    let start := session.initialState cancelled
    let run := Session.runFrom around settings catalog cancelled (earlier ++ later)
    let longer := Session.runFrom around settings catalog cancelled
      (earlier ++ .line text :: later)
    let prompt := around.console.render (.write (session.after start earlier).prompt)
    (CommandLine.parse? text = none ↔ ∀ c ∈ text.toList, Text.isBlank c = true) ∧
    ((∀ c ∈ text.toList, Text.isBlank c = true) →
      longer.transcript.dispatches = run.transcript.dispatches ∧
      longer.verdict = run.verdict ∧ longer.state = run.state ∧
      longer.transcript.exitCodes = run.transcript.exitCodes ∧
      longer.transcript.records = run.transcript.records ∧
      (earlier.length < run.transcript.inputs.length →
        ∃ (before : Transcript Output) (input : Option Input) (after : Transcript Output),
          before.inputs = earlier.map some ∧
          run.transcript = before ++ .shown prompt :: .read input :: after ∧
          longer.transcript = before ++ .shown prompt :: .read (some (.line text)) ::
            .shown prompt :: .read input :: after ∧
          run.transcript.outputs = before.outputs ++ prompt :: after.outputs ∧
          longer.transcript.outputs =
            before.outputs ++ prompt :: prompt :: after.outputs) ∧
      (run.transcript.inputs.length ≤ earlier.length → longer = run)) := by
  intro session start run longer prompt
  have hiff := CommandLine.parse?_eq_none_iff text
  refine ⟨hiff, fun hblank => ?_⟩
  let log := (Session.prepare around settings catalog).2
  have hrun : run = session.enclose log (session.loop (earlier ++ later) start) :=
    Session.runFrom_eq around settings catalog cancelled _
  have hlonger : longer =
      session.enclose log (session.loop (earlier ++ .line text :: later) start) :=
    Session.runFrom_eq around settings catalog cancelled _
  by_cases hopen : session.Open start earlier
  · obtain ⟨input, rest, hshort, hlong⟩ := loop_insert_blank later (hiff.mpr hblank) hopen
    let before := session.preface log ++ session.account start earlier
    let after := rest ++ (closing run.verdict).map .logged
    have hverdict : longer.verdict = run.verdict := by
      rw [hrun, hlonger, hlong]
      rfl
    have hreading : ∀ input, session.reading (session.after start earlier) input =
        [.shown prompt, .read input] := fun _ => rfl
    rw [hreading] at hshort
    rw [hreading, hreading] at hlong
    have htranscript : run.transcript =
        before ++ .shown prompt :: .read input :: after := by
      simp [hrun, enclose, hshort, before, after]
    have hdoubled : longer.transcript =
        before ++ .shown prompt :: .read (some (.line text)) ::
          .shown prompt :: .read input :: after := by
      simp [hlonger, hrun, hlong, enclose, before, after]
    have hbefore : before.inputs = earlier.map some := by
      have hpreface := Transcript.inputs_of_telling (session.preface_telling log)
      simp [before, hpreface, inputs_account]
    refine ⟨?_, hverdict, ?_, ?_, ?_, ?_, ?_⟩
    · simp [htranscript, hdoubled]
    · rw [hrun, hlonger, hlong]
      rfl
    · simp [htranscript, hdoubled]
    · simp [htranscript, hdoubled]
    · intro _
      refine ⟨before, input, after, hbefore, htranscript, hdoubled, ?_, ?_⟩
      · simp [htranscript]
      · simp [hdoubled]
    · -- the read after the earlier inputs is one more than they are
      intro hfew
      have hread : run.transcript.inputs = earlier.map some ++ input :: after.inputs := by
        rw [htranscript, Transcript.inputs_append, hbefore]
        rfl
      rw [hread, List.length_append, List.length_map, List.length_cons] at hfew
      omega
  · have hsame : longer = run := by
      rw [hrun, hlonger, loop_append_of_not_open _ hopen, loop_append_of_not_open _ hopen]
    have hfew : run.transcript.inputs.length ≤ earlier.length := by
      rw [hrun, inputs_enclose, loop_append_of_not_open later hopen]
      exact length_inputs_loop_le hopen
    refine ⟨by rw [hsame], by rw [hsame], by rw [hsame], by rw [hsame], by rw [hsame],
      ?_, fun _ => hsame⟩
    intro hmany
    omega

example : CommandLine.parse? "\"\"" = some ⟨"", []⟩ := by decide

end Session
end CommandShell
