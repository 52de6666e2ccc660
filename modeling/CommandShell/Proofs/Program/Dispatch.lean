import CommandShell.Proofs.Registry.Loading
import CommandShell.Proofs.Shell
import CommandShell.Session

/-! # The commands of the program -/

namespace CommandShell

def Program.commands (settings : Settings) : List Handler :=
  Builtin.handlers settings ++ [Prompt.handler]

theorem Program.mem_commands_iff {settings : Settings} {handler : Handler} :
    handler ∈ Program.commands settings ↔
      handler = Builtin.clear ∨ handler = Builtin.exit settings ∨
        handler = Builtin.hello ∨ handler = Prompt.handler := by
  simp [Program.commands, Builtin.handlers]

theorem Builtin.names_handlers (settings : Settings) :
    (Builtin.handlers settings).map Handler.name = ["cls", "exit", "hello"] := rfl

theorem Builtin.name_ne_prompt {settings : Settings} {handler : Handler}
    (hbuiltin : handler ∈ Builtin.handlers settings) :
    handler.name ≠ Prompt.handler.name := by
  have hname := List.mem_map_of_mem (f := Handler.name) hbuiltin
  rw [Builtin.names_handlers] at hname
  intro hsame
  rw [hsame] at hname
  exact absurd hname (by decide)

theorem Catalog.mem_contribution_linked_iff {settings : Settings} {module : String}
    {handler : Handler} :
    handler ∈ Catalog.linked.contribution settings module ↔
      module = Catalog.promptModule ∧ handler = Prompt.handler := by
  by_cases hmodule : Catalog.promptModule = module
  · subst hmodule
    have honly : Catalog.linked.contribution settings Catalog.promptModule =
        [Prompt.handler] := rfl
    simp [honly]
  · have hnone : Catalog.linked.contribution settings module = [] := by
      simp [Catalog.contribution, Catalog.find?, Catalog.linked, hmodule]
    simp [hnone, Ne.symm hmodule]

theorem Catalog.flatMap_contribution_linked {settings : Settings} {modules : List String}
    {handler : Handler}
    (hmem : handler ∈ modules.flatMap (Catalog.linked.contribution settings)) :
    handler = Prompt.handler := by
  obtain ⟨module, _, hhandler⟩ := List.mem_flatMap.mp hmem
  exact (Catalog.mem_contribution_linked_iff.mp hhandler).2

namespace Session

variable {Output : Type} (around : Surroundings Output) (settings : Settings)

theorem table_prepare_linked :
    (Session.prepare around settings Catalog.linked).1.shell.table =
      Table.empty.insertAll (Builtin.handlers settings ++
        settings.commandSources.flatMap (Catalog.linked.contribution settings)) :=
  Registry.table_loadAll settings Catalog.linked

theorem mem_commands_of_mem_handlers {handler : Handler}
    (hmem : handler ∈
      (Session.prepare around settings Catalog.linked).1.shell.table.handlers) :
    handler ∈ Program.commands settings := by
  rw [table_prepare_linked] at hmem
  rcases Table.mem_handlers_insertAll hmem with hempty | hinserted
  · simp [Table.empty] at hempty
  · rcases List.mem_append.mp hinserted with hbuiltin | hexternal
    · exact List.mem_append_left _ hbuiltin
    · rw [Catalog.flatMap_contribution_linked hexternal]
      simp [Program.commands]

theorem get?_builtin {handler : Handler} (hbuiltin : handler ∈ Builtin.handlers settings) :
    (Session.prepare around settings Catalog.linked).1.shell.table.get? handler.name =
      some handler := by
  rw [table_prepare_linked]
  obtain ⟨earlier, later, hsplit⟩ := List.append_of_mem hbuiltin
  refine Table.get?_insertAll_of_lastNamed ⟨earlier, later ++
    settings.commandSources.flatMap (Catalog.linked.contribution settings), ?_, rfl, ?_⟩
  · rw [hsplit, List.append_assoc, List.cons_append]
  · intro other hother
    rcases List.mem_append.mp hother with hlater | hexternal
    · -- two built-in commands never share a name
      have hnodup : ((Builtin.handlers settings).map Handler.name).Nodup := by
        rw [Builtin.names_handlers]
        decide
      rw [hsplit, List.map_append, List.map_cons, List.nodup_append] at hnodup
      have hfirst := (List.nodup_cons.mp hnodup.2.1).1
      exact fun hsame => hfirst (hsame ▸ List.mem_map_of_mem hlater)
    · rw [Catalog.flatMap_contribution_linked hexternal]
      exact (Builtin.name_ne_prompt hbuiltin).symm

/-- The prompt command is there just if its module is configured, be it once or more
often. -/
theorem get?_prompt (handler : Handler) :
    (Session.prepare around settings Catalog.linked).1.shell.table.get? "prompt" =
        some handler ↔
      Catalog.promptModule ∈ settings.commandSources ∧ handler = Prompt.handler := by
  rw [table_prepare_linked]
  have hexternal : ∀ other, other ∈ Builtin.handlers settings ++
        settings.commandSources.flatMap (Catalog.linked.contribution settings) →
      other.name = "prompt" →
      Catalog.promptModule ∈ settings.commandSources ∧ other = Prompt.handler := by
    intro other hmem hname
    rcases List.mem_append.mp hmem with hbuiltin | hloaded
    · exact (Builtin.name_ne_prompt hbuiltin hname).elim
    · obtain ⟨module, hsource, hhandler⟩ := List.mem_flatMap.mp hloaded
      obtain ⟨rfl, hprompt⟩ := Catalog.mem_contribution_linked_iff.mp hhandler
      exact ⟨hsource, hprompt⟩
  constructor
  · intro hfound
    obtain ⟨earlier, later, hsplit, hname, _⟩ :=
      (Table.get?_empty_insertAll_eq_some_iff _ _ _).mp hfound
    exact hexternal handler (by simp [hsplit]) hname
  · rintro ⟨hmodule, rfl⟩
    rcases Table.lastNamed_or_not_named (Builtin.handlers settings ++
        settings.commandSources.flatMap (Catalog.linked.contribution settings)) "prompt" with
      ⟨last, hlast⟩ | hnone
    · rw [Table.get?_insertAll_of_lastNamed hlast]
      obtain ⟨earlier, later, hsplit, hname, _⟩ := hlast
      rw [(hexternal last (by simp [hsplit]) hname).2]
    · have hmem : Prompt.handler ∈
          settings.commandSources.flatMap (Catalog.linked.contribution settings) :=
        List.mem_flatMap.mpr ⟨Catalog.promptModule, hmodule,
          Catalog.mem_contribution_linked_iff.mpr ⟨rfl, rfl⟩⟩
      exact (hnone Prompt.handler (List.mem_append_right _ hmem) rfl).elim

end Session

/-! ## Dispatches of the program -/

/-- The calls that commands make.  The title and the prompt are left to the shell. -/
def Call.OfCommand : Call → Prop
  | .title _ => False
  | .write _ => False
  | .warning _ => False
  | _ => True

theorem Surroundings.outputs_calls (policy : ExitPolicy) (calls : List Call)
    (state : State) :
    (Surroundings.calls ⟨Console.recorder, policy⟩ calls state).transcript.outputs =
      calls := by
  simp [Surroundings.calls, Run.note, Transcript.outputs, List.filterMap_map,
    Function.comp_def, Console.recorder]

theorem Shell.ofCommand_of_mem_help {shell : Shell} {call : Call}
    (hmem : call ∈ shell.help) : call.OfCommand := by
  rw [help, List.mem_cons] at hmem
  rcases hmem with rfl | hentry
  · trivial
  · obtain ⟨handler, _, hcall⟩ := List.mem_flatMap.mp hentry
    simp only [helpEntry, List.mem_cons, List.not_mem_nil, or_false] at hcall
    rcases hcall with rfl | rfl <;> trivial

theorem Shell.ofCommand_of_mem_unknown {command : String} {call : Call}
    (hmem : call ∈ unknown command) : call.OfCommand := by
  simp only [unknown, List.mem_cons, List.not_mem_nil, or_false] at hmem
  rcases hmem with rfl | rfl | rfl <;> trivial

variable {settings : Settings}

theorem Program.ofCommand_of_invoke {handler : Handler}
    (hhandler : handler ∈ Program.commands settings) (policy : ExitPolicy)
    (args : List String) (state : State) :
    ∀ call ∈ (handler.invoke ⟨Console.recorder, policy⟩ args state).transcript.outputs,
      call.OfCommand := by
  rcases Program.mem_commands_iff.mp hhandler with rfl | rfl | rfl | rfl
  · intro call hmem
    rw [List.mem_singleton.mp hmem]
    trivial
  · intro call hmem
    have hbye : call = .writeLine "Bye..." := by
      cases policy <;> exact List.mem_singleton.mp hmem
    rw [hbye]
    trivial
  · intro call hmem
    rw [List.mem_singleton.mp hmem]
    trivial
  · intro call hmem
    match args with
    | [] =>
        rw [List.mem_singleton.mp hmem]
        trivial
    | [argument] => exact (List.not_mem_nil hmem).elim
    | first :: second :: rest =>
        rw [List.mem_singleton.mp hmem]
        trivial

theorem Shell.ofCommand_of_dispatch {shell : Shell}
    (hhandlers : ∀ handler ∈ shell.table.handlers, handler ∈ Program.commands settings)
    (policy : ExitPolicy) (line : CommandLine) (state : State) :
    ∀ call ∈ (shell.dispatch ⟨Console.recorder, policy⟩ line state).transcript.outputs,
      call.OfCommand := by
  rcases shell.dispatch_cases ⟨Console.recorder, policy⟩ line state with
    hhelp | hunknown | ⟨handler, hmem, _, hinvoke⟩
  · rw [hhelp, Surroundings.outputs_calls]
    exact fun call => ofCommand_of_mem_help
  · rw [hunknown]
    exact fun call => ofCommand_of_mem_unknown
  · rw [hinvoke]
    exact Program.ofCommand_of_invoke (hhandlers handler hmem) policy line.args state

theorem Session.ofCommand_of_dispatch (policy : ExitPolicy) (settings : Settings)
    (line : CommandLine) (state : State) :
    let session := (Session.prepare ⟨Console.recorder, policy⟩ settings Catalog.linked).1
    ∀ call ∈ (session.shell.dispatch session.around line state).transcript.outputs,
      call.OfCommand := by
  have hhandlers := @mem_commands_of_mem_handlers _ ⟨Console.recorder, policy⟩ settings
  exact Shell.ofCommand_of_dispatch (fun _ => hhandlers) policy line state

variable {Output : Type} {around : Surroundings Output}

theorem Surroundings.prompt_exit (code : Int) (state : State) :
    (around.exit code state).state.prompt = state.prompt := by
  unfold Surroundings.exit
  cases around.exitPolicy <;> rfl

theorem Program.prompt_invoke {handler : Handler} {args : List String}
    (hhandler : handler ∈ Program.commands settings)
    (hargs : handler = Prompt.handler → ∀ argument, args ≠ [argument]) (state : State) :
    (handler.invoke around args state).state.prompt = state.prompt := by
  rcases Program.mem_commands_iff.mp hhandler with rfl | rfl | rfl | rfl
  · rfl
  · have hrun : ((Builtin.exit settings).invoke around args state).state.prompt =
        ((around.exit Builtin.successCode state).andThen Run.idle).state.prompt := rfl
    rw [hrun, Run.andThen_idle, Surroundings.prompt_exit]
  · rfl
  · match args with
    | [] => rfl
    | [argument] => exact (hargs rfl argument rfl).elim
    | first :: second :: rest => rfl

theorem Shell.prompt_dispatch {shell : Shell} {line : CommandLine}
    (hhandlers : ∀ handler ∈ shell.table.handlers, handler ∈ Program.commands settings)
    (hline : (shell.table.get? "prompt").isSome → ∀ argument, line ≠ ⟨"prompt", [argument]⟩)
    (state : State) : (shell.dispatch around line state).state.prompt = state.prompt := by
  unfold dispatch
  split
  · rfl
  · cases hfound : shell.table.get? line.command with
    | none => rfl
    | some handler =>
        have hmem := List.mem_of_find?_eq_some hfound
        have hname : handler.name = line.command := by
          simpa using List.find?_some hfound
        refine Program.prompt_invoke (hhandlers handler hmem) ?_ state
        rintro rfl argument hargs
        have hcommand : line.command = "prompt" := hname.symm
        rw [hcommand] at hfound
        refine hline (by rw [hfound]; rfl) argument ?_
        rw [← hcommand, ← hargs]

theorem Shell.prompt_dispatch_prompt {shell : Shell}
    (hfound : shell.table.get? "prompt" = some Prompt.handler) (argument : String)
    (state : State) :
    (shell.dispatch around ⟨"prompt", [argument]⟩ state).state.prompt =
      Prompt.ofArgument argument := by
  have hreserved : "prompt" ∉ ["help", "?"] := by decide
  rw [Shell.dispatch_handler around state hreserved hfound]
  rfl

end CommandShell
