import CommandShell.Proofs.CommandLine.Quoting
import CommandShell.Proofs.Session.Order
import CommandShell.Proofs.Shell

/-! # What a session can reach -/

namespace CommandShell

variable {Output : Type}

def Handler.withScript (handler : Handler) (script : List String → Script) : Handler :=
  { handler with script := script }

@[simp] theorem Handler.name_withScript (handler : Handler)
    (script : List String → Script) : (handler.withScript script).name = handler.name := rfl

def Shell.withScript (shell : Shell) (handler : Handler)
    (script : List String → Script) : Shell :=
  { shell with table := (shell.table.insert (handler.withScript script)).2 }

theorem Handler.helpEntries_place {handler : Handler} {handlers : List Handler}
    (hfound : (handlers.find? fun other => other.name = handler.name) = some handler)
    (script : List String → Script) :
    ((handler.withScript script).place handlers).2.flatMap Shell.helpEntry =
      handlers.flatMap Shell.helpEntry := by
  induction handlers with
  | nil => simp at hfound
  | cons first rest ih =>
      by_cases hname : first.name = (handler.withScript script).name
      · rw [List.find?_cons_of_pos (by simpa using hname), Option.some.injEq] at hfound
        rw [Handler.place_cons_of_eq _ rest hname, hfound]
        rfl
      · rw [List.find?_cons_of_neg (by simpa using hname)] at hfound
        rw [Handler.place_cons_of_ne _ rest hname, List.flatMap_cons, List.flatMap_cons,
          ih hfound]

/-- The script of a handler matters only to lines that reach it. -/
theorem Shell.dispatch_withScript {shell : Shell} {handler : Handler}
    (hfound : shell.table.get? handler.name = some handler)
    (script : List String → Script) (around : Surroundings Output) {line : CommandLine}
    (hline : line.command ∈ reservedNames ∨ line.command ≠ handler.name) (state : State) :
    (shell.withScript handler script).dispatch around line state =
      shell.dispatch around line state := by
  have hhelp : (shell.withScript handler script).help = shell.help := by
    have hentries := Handler.helpEntries_place hfound script
    rw [help, help, ← hentries]
    rfl
  unfold dispatch
  by_cases hreserved : line.command ∈ reservedNames
  · rw [if_pos hreserved, if_pos hreserved, hhelp]
  · have hother : handler.name ≠ line.command :=
      (hline.resolve_left hreserved).symm
    have hget : (shell.withScript handler script).table.get? line.command =
        shell.table.get? line.command := by
      rw [withScript, Table.get?_insert, if_neg (by simpa using hother)]
    rw [if_neg hreserved, if_neg hreserved, hget]

theorem Shell.exists_help_eq {shell : Shell} {handler : Handler}
    (hfound : shell.table.get? handler.name = some handler) :
    ∃ before after, shell.help = before ++ helpEntry handler ++ after := by
  obtain ⟨hmem, _⟩ := Table.get?_eq_some_iff.mp hfound
  obtain ⟨earlier, later, hhandlers⟩ := List.append_of_mem hmem
  refine ⟨.writeLine (helpHeader shell.appName) :: earlier.flatMap helpEntry,
    later.flatMap helpEntry, ?_⟩
  simp [help, hhandlers]

theorem Shell.name_of_dispatch_eq_invoke {shell : Shell} {handler : Handler}
    {around : Surroundings Output} {line : CommandLine} {state : State}
    (hinvoke : shell.dispatch around line state =
      handler.invoke around line.args state) :
    line.command ∉ reservedNames ∧ handler.name = line.command := by
  have hfirst : (shell.dispatch around line state).transcript.head? =
      some (.logged (.handling handler.name)) := by
    rw [hinvoke]
    rfl
  rcases shell.dispatch_cases around line state with
    hhelp | hunknown | ⟨other, _, hname, hother⟩
  · rw [hhelp] at hfirst
    simp [Surroundings.calls, Run.note, help] at hfirst
  · rw [hunknown] at hfirst
    simp [Run.note, Run.andThen] at hfirst
  · have hreserved : line.command ∉ reservedNames := by
      intro hmem
      rw [dispatch, if_pos hmem] at hfirst
      simp [Surroundings.calls, Run.note, help] at hfirst
    rw [hother] at hfirst
    have hnames : other.name = handler.name := by
      simpa [Handler.invoke, Run.note, Run.andThen] using hfirst
    exact ⟨hreserved, hnames.symm.trans hname⟩

namespace Session

variable {session : Session Output}

theorem exists_parse?_exitLine : ∃ text, CommandLine.parse? text = some exitLine :=
  ⟨"exit", by decide⟩

variable (session) in
theorem parse?_of_mem_dispatches {inputs : List Input} {start : State}
    {line : CommandLine} (hmem : line ∈ (session.run inputs start).transcript.dispatches) :
    ∃ text, CommandLine.parse? text = some line := by
  obtain ⟨handled, rest, ended, _, _, _, _, hloop⟩ := session.loop_handles inputs start
  have hdispatches : (session.run inputs start).transcript.dispatches =
      handled.filterMap Input.commandLine? ++ if ended then [exitLine] else [] := by
    rw [run_eq, dispatches_enclose, hloop]
    cases ended <;> simp [dispatches_account, dispatches_lastExchange]
  rw [hdispatches] at hmem
  rcases List.mem_append.mp hmem with hread | hexit
  · obtain ⟨input, _, hinput⟩ := List.mem_filterMap.mp hread
    cases input with
    | line text => exact ⟨text, hinput⟩
    | failure message => simp [Input.commandLine?] at hinput
    | interrupt => simp [Input.commandLine?] at hinput
  · cases ended with
    | false => simp at hexit
    | true =>
        rw [List.mem_singleton.mp hexit]
        exact exists_parse?_exitLine

/-! ## Sessions with other shells -/

def withShell (session : Session Output) (shell : Shell) : Session Output :=
  { session with shell := shell }

variable {shell : Shell}

theorem execute_withShell {line : CommandLine}
    (hline : ∀ state, shell.dispatch session.around line state =
      session.shell.dispatch session.around line state) (state : State) :
    (session.withShell shell).execute line state = session.execute line state := by
  have hdispatch : shell.dispatch session.around line =
      session.shell.dispatch session.around line := funext hline
  unfold execute
  change (Run.note [.dispatched line] state).andThen
    (fun next => session.report line (shell.dispatch session.around line next)) = _
  rw [hdispatch]

theorem turn_withShell
    (htyped : ∀ line, (∃ text, CommandLine.parse? text = some line) → ∀ state,
      shell.dispatch session.around line state =
        session.shell.dispatch session.around line state)
    (input : Option Input) (state : State) :
    (session.withShell shell).turn input state = session.turn input state := by
  refine congrArg (session.ask state).andThen (funext fun asked => ?_)
  refine congrArg (Run.note [.read input] asked).andThen (funext fun next => ?_)
  cases input with
  | none =>
      have hexit : (session.withShell shell).execute exitLine = session.execute exitLine :=
        funext (execute_withShell (htyped exitLine exists_parse?_exitLine))
      exact congrArg (session.around.call (.writeLine "") next).andThen hexit
  | some input =>
      cases input with
      | interrupt => rfl
      | failure message => rfl
      | line text =>
          cases hline : CommandLine.parse? text with
          | none => simp only [hline]
          | some line =>
              simp only [hline]
              exact execute_withShell (htyped line ⟨text, hline⟩) next

/-- Shells that dispatch alike every line that can be typed make the same session. -/
theorem loop_withShell
    (htyped : ∀ line, (∃ text, CommandLine.parse? text = some line) → ∀ state,
      shell.dispatch session.around line state =
        session.shell.dispatch session.around line state)
    (inputs : List Input) (state : State) :
    (session.withShell shell).loop inputs state = session.loop inputs state := by
  induction inputs generalizing state with
  | nil => rw [loop, loop, turn_withShell htyped]
  | cons input rest ih =>
      rw [loop, loop, turn_withShell htyped]
      simp only [funext ih]

/-- Exactly the command lines without quotes can be typed, and dispatching one for a
registered name invokes its handler just if the name is not reserved.  So over any
session a handler whose name holds a quote or is reserved is listed and never invoked:
no dispatch is its run, and any other script in its place gives the same session. -/
theorem unquoted_names_are_reached (session : Session Output) (inputs : List Input)
    (start : State) :
    (∀ name args, (∃ text, CommandLine.parse? text = some ⟨name, args⟩) ↔
      '"' ∉ name.toList ∧ ∀ arg ∈ args, '"' ∉ arg.toList) ∧
    (∀ name handler, session.shell.table.get? name = some handler → ∀ args state,
      (session.shell.dispatch session.around ⟨name, args⟩ state =
        handler.invoke session.around args state ↔ name ∉ ["help", "?"])) ∧
    ∀ handler, session.shell.table.get? handler.name = some handler →
      ('"' ∈ handler.name.toList ∨ handler.name ∈ ["help", "?"]) →
      (∃ before after, ∀ line state, line.command ∈ ["help", "?"] →
        session.shell.dispatch session.around line state =
          session.around.calls (before ++
            [.writeLine handler.name, .writeLine ("  " ++ handler.description ++ "\n")] ++
            after) state) ∧
      (∀ line ∈ (session.run inputs start).transcript.dispatches, ∀ state,
        session.shell.dispatch session.around line state ≠
          handler.invoke session.around line.args state) ∧
      ∀ script,
        (session.withShell (session.shell.withScript handler script)).run inputs start =
          session.run inputs start := by
  refine ⟨fun name args => CommandLine.exists_parse?_iff ⟨name, args⟩, ?_, ?_⟩
  · intro name handler hfound args state
    constructor
    · intro hinvoke
      exact (Shell.name_of_dispatch_eq_invoke hinvoke).1
    · intro hreserved
      exact Shell.dispatch_found session.around state hreserved hfound
  · intro handler hfound hname
    have hunreached : ∀ line, (∃ text, CommandLine.parse? text = some line) →
        line.command ∈ Shell.reservedNames ∨ line.command ≠ handler.name := by
      intro line hline
      rcases hname with hquote | hreserved
      · refine Or.inr ?_
        rintro hsame
        exact ((CommandLine.exists_parse?_iff line).mp hline).1 (hsame ▸ hquote)
      · by_cases hsame : line.command = handler.name
        · exact Or.inl (hsame ▸ hreserved)
        · exact Or.inr hsame
    refine ⟨?_, ?_, ?_⟩
    · obtain ⟨before, after, hhelp⟩ := Shell.exists_help_eq hfound
      refine ⟨before, after, fun line state hreserved => ?_⟩
      rw [Shell.dispatch, if_pos (by exact hreserved), hhelp]
      rfl
    · intro line hmem state hinvoke
      obtain ⟨hreserved, hsame⟩ := Shell.name_of_dispatch_eq_invoke hinvoke
      rcases hunreached line (session.parse?_of_mem_dispatches hmem) with hin | hother
      · exact hreserved hin
      · exact hother hsame.symm
    · intro script
      have hdispatch : ∀ line, (∃ text, CommandLine.parse? text = some line) → ∀ state,
          (session.shell.withScript handler script).dispatch session.around line state =
            session.shell.dispatch session.around line state :=
        fun line hline => Shell.dispatch_withScript hfound script session.around
          (hunreached line hline)
      rw [run_eq, run_eq, loop_withShell hdispatch]
      rfl

end Session
end CommandShell
