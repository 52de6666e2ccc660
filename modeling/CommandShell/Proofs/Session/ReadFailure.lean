import CommandShell.Proofs.Console.LineFeed
import CommandShell.Proofs.Session.Farewell
import CommandShell.Proofs.Session.Order

/-!
# Failures of sessions

Only the failure of a read reaches the verdict of a session.
-/

namespace CommandShell

section

variable {Output : Type}

theorem Verdict.reported_ne_failed (verdict : Verdict) (failure : Failure) :
    verdict.reported ≠ .failed failure := by
  cases verdict <;> simp [Verdict.reported]

theorem Verdict.reported_eq_exited {verdict : Verdict} {code : Int}
    (hreported : verdict.reported = .exited code) : verdict = .exited code := by
  cases verdict with
  | done => simp [Verdict.reported] at hreported
  | failed failure => simp [Verdict.reported] at hreported
  | exited other => exact hreported

theorem Failure.eq_of_chain {first second : Failure}
    (hchain : first.chain = second.chain) : first = second := by
  obtain ⟨outermost, causes⟩ := first
  obtain ⟨outermost', causes'⟩ := second
  simp only [Failure.chain, List.cons.injEq] at hchain
  rw [hchain.1, hchain.2]

namespace Session

variable {session : Session Output}

variable (session) in
/-- A session meets a failure if a read fails with its message while the session is
open. -/
def MeetsFailure (start : State) (inputs : List Input) (message : String) : Prop :=
  ∃ earlier later, inputs = earlier ++ .failure message :: later ∧
    session.Open start earlier

theorem chain_readFailure (message : String) :
    (readFailure message).chain = ["failed to read command line", message] := rfl

theorem verdictAfter_failed {state : State} {input : Input} {failure : Failure}
    (hverdict : session.verdictAfter state input = .failed failure) :
    ∃ message, input = .failure message ∧ failure = readFailure message := by
  cases input with
  | interrupt => simp [verdictAfter] at hverdict
  | failure message =>
      simp only [verdictAfter, Verdict.failed.injEq] at hverdict
      exact ⟨message, rfl, hverdict.symm⟩
  | line text =>
      cases hline : CommandLine.parse? text with
      | none => simp [verdictAfter, hline] at hverdict
      | some line =>
          simp only [verdictAfter, hline] at hverdict
          exact (Verdict.reported_ne_failed _ failure hverdict).elim

theorem verdictAfter_exited {state : State} {input : Input} {code : Int}
    (hverdict : session.verdictAfter state input = .exited code) :
    session.around.exitPolicy = .endProcess := by
  cases input with
  | interrupt => simp [verdictAfter] at hverdict
  | failure message => simp [verdictAfter] at hverdict
  | line text =>
      cases hline : CommandLine.parse? text with
      | none => simp [verdictAfter, hline] at hverdict
      | some line =>
          simp only [verdictAfter, hline] at hverdict
          have hrun := session.shell.dispatch_byCommand session.around line state
          exact (hrun.exited code (Verdict.reported_eq_exited hverdict)).1

theorem loop_append_failure {start : State} {earlier : List Input} (message : String)
    (later : List Input) (hopen : session.Open start earlier) :
    session.loop (earlier ++ .failure message :: later) start =
      ⟨session.account start earlier ++
          session.exchange (session.after start earlier) (.failure message),
        session.after start earlier, .failed (readFailure message)⟩ := by
  have hclosed : ¬ session.Open (session.after start earlier) [.failure message] := by
    rintro ⟨hlines, _⟩
    obtain ⟨text, htext⟩ := hlines (.failure message) (by simp)
    simp at htext
  rw [loop_append (.failure message :: later) hopen, Run.andThen_done,
    loop_cons_of_not_open later hopen.2 hclosed, turn_some]
  rfl

theorem loop_failed_iff (inputs : List Input) (start : State) (failure : Failure) :
    (session.loop inputs start).verdict = .failed failure ↔
      ∃ message, session.MeetsFailure start inputs message ∧
        failure = readFailure message := by
  constructor
  · intro hverdict
    have hcourse := session.loop_course inputs start
    generalize session.loop inputs start = run at hcourse hverdict
    cases hcourse with
    | unopened _ hcancelled => simp [Run.idle] at hverdict
    | ended _ hopen => exact (Verdict.reported_ne_failed _ failure hverdict).elim
    | stopped earlier input later hearlier hclosed =>
        obtain ⟨message, rfl, hfailure⟩ := verdictAfter_failed hverdict
        exact ⟨message, ⟨earlier, later, rfl, hearlier⟩, hfailure⟩
  · rintro ⟨message, ⟨earlier, later, rfl, hopen⟩, rfl⟩
    rw [loop_append_failure message later hopen]

theorem loop_exited {inputs : List Input} {start : State} {code : Int}
    (hverdict : (session.loop inputs start).verdict = .exited code) :
    session.around.exitPolicy = .endProcess := by
  have hcourse := session.loop_course inputs start
  generalize session.loop inputs start = run at hcourse hverdict
  cases hcourse with
  | unopened _ hcancelled => simp [Run.idle] at hverdict
  | ended _ hopen =>
      have hrun := session.shell.dispatch_byCommand session.around exitLine
        (session.after start inputs)
      exact (hrun.exited code (Verdict.reported_eq_exited hverdict)).1
  | stopped earlier input later hearlier hclosed =>
      exact verdictAfter_exited hverdict

theorem enclose_of_meetsFailure {start : State} {inputs : List Input}
    {message : String} (log : List LogRecord)
    (hmeets : session.MeetsFailure start inputs message) :
    ∃ before,
      (session.enclose log (session.loop inputs start)).transcript =
        before ++ .read (some (.failure message)) ::
          (closing (.failed (readFailure message))).map .logged := by
  obtain ⟨earlier, later, rfl, hopen⟩ := hmeets
  have hloop := loop_append_failure message later hopen
  refine ⟨session.preface log ++ session.account start earlier ++
    [.shown (session.around.console.render
      (.write (session.after start earlier).prompt))], ?_⟩
  rw [hloop]
  simp [enclose, exchange_failure, reading]

/-- A session fails just if it meets the failure of a read; its failure then has the
message of that read as the cause, and after that read it shows, reads, dispatches
and exits no more.  Where `exit` does not end the process, a session that meets no
failure of a read ends well, whatever its commands and sources do. -/
theorem runFrom_failed_iff_meets_failure (around : Surroundings Output)
    (settings : Settings) (catalog : Catalog) (cancelled : Bool)
    (inputs : List Input) :
    let session := (Session.prepare around settings catalog).1
    let start := session.initialState cancelled
    let run := Session.runFrom around settings catalog cancelled inputs
    (∀ failure, run.verdict = .failed failure ↔
      ∃ message, session.MeetsFailure start inputs message ∧
        failure.chain = ["failed to read command line", message]) ∧
    (∀ message, session.MeetsFailure start inputs message →
      ∃ before after : Transcript Output,
        run.transcript = before ++ .read (some (.failure message)) :: after ∧
        after.outputs = [] ∧ after.inputs = [] ∧ after.dispatches = [] ∧
        after.exitCodes = []) ∧
    (around.exitPolicy ≠ .endProcess →
      (run.verdict = .done ↔
        ∀ message, ¬ session.MeetsFailure start inputs message)) := by
  intro session start run
  have hrun : run = session.enclose (Session.prepare around settings catalog).2
      (session.loop inputs start) :=
    Session.runFrom_eq around settings catalog cancelled inputs
  have hverdict : run.verdict = (session.loop inputs start).verdict := by
    rw [hrun]
    rfl
  refine ⟨?_, ?_, ?_⟩
  · intro failure
    rw [hverdict, loop_failed_iff]
    constructor
    · rintro ⟨message, hmeets, rfl⟩
      exact ⟨message, hmeets, chain_readFailure message⟩
    · rintro ⟨message, hmeets, hchain⟩
      exact ⟨message, hmeets, Failure.eq_of_chain hchain⟩
  · intro message hmeets
    obtain ⟨before, htranscript⟩ := enclose_of_meetsFailure
      (Session.prepare around settings catalog).2 hmeets
    rw [← hrun] at htranscript
    exact ⟨before, _, htranscript, by simp, by simp, by simp, by simp⟩
  · intro hpolicy
    rw [hverdict]
    constructor
    · intro hdone message hmeets
      have hfailed := (loop_failed_iff inputs start (readFailure message)).mpr
        ⟨message, hmeets, rfl⟩
      rw [hdone] at hfailed
      contradiction
    · intro hnone
      cases hcase : (session.loop inputs start).verdict with
      | done => rfl
      | exited code => exact (hpolicy (loop_exited hcase)).elim
      | failed failure =>
          obtain ⟨message, hmeets, _⟩ := (loop_failed_iff inputs start failure).mp hcase
          exact (hnone message hmeets).elim

end Session

end

/-! ## Streams that cannot be read -/

namespace Session

theorem leaves_iff_head? (text : String) :
    Leaves text ↔ (tokenize text).head? = some "exit" := by
  unfold Leaves CommandLine.parse?
  cases tokenize text with
  | nil => simp [CommandLine.ofTokens?]
  | cons command args => simp [CommandLine.ofTokens?]

end Session

namespace LineFeed

/-- Of the pieces one is not UTF-8, and no piece before it begins with `exit`. -/
def Fails (pieces : List (List UInt8)) : Prop :=
  ∃ earlier piece later, pieces = earlier ++ piece :: later ∧
    (∀ text, piece ≠ encoded text) ∧
    ∀ other ∈ earlier, ∀ text, Spells other text → (tokenize text).head? ≠ some "exit"

theorem Spells.unique {piece : List UInt8} {first second : String} (hpiece : piece ≠ [])
    (hfirst : Spells piece first) (hsecond : Spells piece second) : first = second := by
  have hsame := (hfirst.deliver_eq hpiece).symm.trans (hsecond.deliver_eq hpiece)
  exact Delivery.line.inj hsame

theorem not_fails_nil : ¬ Fails [] := by
  rintro ⟨earlier, piece, later, hsplit, _⟩
  simp at hsplit

theorem fails_cons_of_spells {piece : List UInt8} {text : String}
    (hspells : Spells piece text) (hpiece : piece ≠ []) (rest : List (List UInt8)) :
    Fails (piece :: rest) ↔ ¬ Session.Leaves text ∧ Fails rest := by
  constructor
  · rintro ⟨earlier, bad, later, hsplit, hbad, hearlier⟩
    cases earlier with
    | nil =>
        obtain ⟨ends, hencoded, _⟩ := hspells
        obtain ⟨rfl, _⟩ := List.cons.inj hsplit
        exact (hbad _ hencoded).elim
    | cons first earlier =>
        obtain ⟨rfl, hrest⟩ := List.cons.inj hsplit
        obtain ⟨hfirst, hothers⟩ := List.forall_mem_cons.mp hearlier
        refine ⟨?_, earlier, bad, later, hrest, hbad, hothers⟩
        rw [Session.leaves_iff_head?]
        exact hfirst text hspells
  · rintro ⟨hstays, earlier, bad, later, rfl, hbad, hearlier⟩
    refine ⟨piece :: earlier, bad, later, rfl, hbad, ?_⟩
    rw [List.forall_mem_cons]
    refine ⟨?_, hearlier⟩
    intro other hother
    rw [← hspells.unique hpiece hother, ne_eq, ← Session.leaves_iff_head?]
    exact hstays

theorem fails_cons_of_not_encoded {piece : List UInt8}
    (hpiece : ∀ text, piece ≠ encoded text) (rest : List (List UInt8)) :
    Fails (piece :: rest) :=
  ⟨[], piece, rest, rfl, hpiece, by simp⟩

/-- Pieces fail just if the inputs that they give come to a failure before a line that
leaves. -/
theorem fails_iff {pieces : List (List UInt8)} {delivered : List Delivery}
    (hdelivers : Delivers pieces delivered) (hpieces : ∀ piece ∈ pieces, piece ≠ []) :
    Fails pieces ↔ ∃ (lines : List String) (later : List Input),
      delivered.filterMap Delivery.input? =
        lines.map .line ++ .failure Delivery.invalidMessage :: later ∧
      ∀ text ∈ lines, ¬ Session.Leaves text := by
  induction hdelivers with
  | nil => simp [not_fails_nil]
  | @line piece text rest delivered hspells _ ih =>
      obtain ⟨hpiece, hrest⟩ := List.forall_mem_cons.mp hpieces
      rw [fails_cons_of_spells hspells hpiece, ih hrest]
      constructor
      · rintro ⟨hstays, lines, later, hinputs, hlines⟩
        refine ⟨text :: lines, later, ?_, ?_⟩
        · simp [Delivery.input?, hinputs]
        · simpa using ⟨hstays, hlines⟩
      · rintro ⟨lines, later, hinputs, hlines⟩
        cases lines with
        | nil => simp [Delivery.input?] at hinputs
        | cons first lines =>
            simp only [Delivery.input?, List.filterMap_cons, List.map_cons,
              List.cons_append, List.cons.injEq, Input.line.injEq] at hinputs
            obtain ⟨rfl, hlater⟩ := hinputs
            obtain ⟨hfirst, hothers⟩ := List.forall_mem_cons.mp hlines
            exact ⟨hfirst, lines, later, hlater, hothers⟩
  | invalid hpiece =>
      have hfails := fails_cons_of_not_encoded hpiece
      exact iff_of_true (hfails _) ⟨[], [], rfl, by simp⟩

def FailsToRead (bytes : List UInt8) : Prop :=
  ∃ pieces, Cut bytes pieces ∧ Fails pieces

theorem failsToRead_iff (bytes : List UInt8) :
    FailsToRead bytes ↔ ∃ (lines : List String) (later : List Input),
      inputs bytes = lines.map .line ++ .failure Delivery.invalidMessage :: later ∧
      ∀ text ∈ lines, ¬ Session.Leaves text := by
  have hcut := cut_pieces bytes
  have hpieces := fails_iff (delivers_deliveriesOf hcut.ne_nil_of_mem)
    hcut.ne_nil_of_mem
  have honly : FailsToRead bytes ↔ Fails (pieces bytes) := by
    constructor
    · rintro ⟨cut, hother, hfails⟩
      exact hother.eq_pieces ▸ hfails
    · intro hfails
      exact ⟨_, hcut, hfails⟩
  rw [honly, hpieces]
  rfl

theorem line_or_invalid_of_mem_inputs {bytes : List UInt8} {input : Input}
    (hmem : input ∈ inputs bytes) :
    (∃ text, input = .line text) ∨ input = .failure Delivery.invalidMessage := by
  obtain ⟨delivery, _, hinput⟩ := List.mem_filterMap.mp hmem
  cases delivery with
  | line text => exact Or.inl ⟨text, (Option.some.inj hinput).symm⟩
  | invalid => exact Or.inr (Option.some.inj hinput).symm
  | ended => simp [Delivery.input?] at hinput

end LineFeed

namespace Session

variable {session : Session Call} {state : State}

theorem cancelled_initialState (session : Session Call) (cancelled : Bool) :
    (session.initialState cancelled).cancelled = cancelled := rfl

theorem exists_lines {inputs : List Input}
    (hinputs : ∀ input ∈ inputs, ∃ text, input = .line text) :
    ∃ lines : List String, inputs = lines.map .line := by
  induction inputs with
  | nil => exact ⟨[], rfl⟩
  | cons input rest ih =>
      obtain ⟨⟨text, rfl⟩, hrest⟩ := List.forall_mem_cons.mp hinputs
      obtain ⟨lines, rfl⟩ := ih hrest
      exact ⟨text :: lines, rfl⟩

theorem Parting.meetsFailure_of_failsToRead (hsession : session.Parting)
    (hstart : state.cancelled = false) {bytes : List UInt8}
    (hfails : LineFeed.FailsToRead bytes) :
    session.MeetsFailure state (LineFeed.inputs bytes) Delivery.invalidMessage := by
  obtain ⟨lines, later, hinputs, hstays⟩ := (LineFeed.failsToRead_iff bytes).mp hfails
  exact ⟨lines.map .line, later, hinputs,
    (hsession.open_lines_iff lines state).mpr ⟨hstart, hstays⟩⟩

theorem Parting.endsInExit_of_not_failsToRead (hsession : session.Parting)
    (hstart : state.cancelled = false) {bytes : List UInt8}
    (hreads : ¬ LineFeed.FailsToRead bytes) :
    ∃ ended, EndsInExit ended (session.loop (LineFeed.inputs bytes) state) := by
  rcases session.open_or_stops state (LineFeed.inputs bytes) with
    hcancelled | hopen | ⟨earlier, input, later, hinputs, hearlier, hclosed⟩
  · rw [hstart] at hcancelled
    contradiction
  · obtain ⟨lines, hlines⟩ := exists_lines hopen.1
    rw [hlines]
    exact ⟨_, hsession.endsInExit_loop lines hstart⟩
  · obtain ⟨lines, rfl⟩ := exists_lines hearlier.1
    have hmem : input ∈ LineFeed.inputs bytes := by
      simp [hinputs]
    rcases LineFeed.line_or_invalid_of_mem_inputs hmem with ⟨text, rfl⟩ | rfl
    · -- whatever stands behind the line that leaves is never handled
      have hleaves := hsession.leaves_of_not_open hearlier hclosed
      have hlast := hsession.endsInExit_loop (lines ++ [text]) hstart
      rw [List.map_append, List.map_singleton] at hlast
      rw [hinputs, hsession.loop_leaves hleaves]
      exact ⟨_, hlast⟩
    · have hstays := ((hsession.open_lines_iff lines state).mp hearlier).2
      exact (hreads ((LineFeed.failsToRead_iff bytes).mpr
        ⟨lines, later, hinputs, hstays⟩)).elim

end Session

end CommandShell
