import CommandShell.Proofs.Session.Course
import CommandShell.Proofs.Session.Order

/-!
# Failures of commands are only reported

A session is compared with the one in which every command that fails ends well instead,
after the same actions.
-/

namespace CommandShell

section

variable {Output : Type} {around : Surroundings Output}

def Script.unfailing : Script → Script
  | .done => .done
  | .step (.fail _) _ => .done
  | .step action next => .step action fun state => (next state).unfailing

/-- The run with its failure, if it failed, taken for a good end. -/
def Run.recovered (run : Run Output) : Run Output :=
  { run with verdict := run.verdict.reported }

theorem Run.recovered_andThen {first : Run Output} (second : State → Run Output)
    (hfirst : ∀ failure, first.verdict ≠ .failed failure) :
    (first.andThen second).recovered =
      first.andThen fun state => (second state).recovered := by
  obtain ⟨transcript, state, verdict⟩ := first
  cases verdict with
  | done => rfl
  | failed failure => exact (hfirst failure rfl).elim
  | exited code => rfl

theorem Action.run_not_failed {action : Action} (state : State)
    (haction : ∀ failure, action ≠ .fail failure) (failure : Failure) :
    (action.run around state).verdict ≠ .failed failure := by
  cases action with
  | fail failure => exact (haction failure rfl).elim
  | exit code =>
      unfold Action.run Surroundings.exit
      cases around.exitPolicy <;> simp
  | call request => simp [Action.run, Surroundings.call, Run.note]
  | reportToken => simp [Action.run, Surroundings.call, Run.note]
  | yield => simp [Action.run, Run.idle]
  | cancel => simp [Action.run]
  | setPrompt prompt => simp [Action.run, Run.idle]
  | remember memory => simp [Action.run, Run.idle]
  | log record => simp [Action.run, Run.note]

theorem Script.unfailing_step {action : Action} (next : State → Script)
    (haction : ∀ failure, action ≠ .fail failure) :
    (Script.step action next).unfailing =
      .step action fun state => (next state).unfailing := by
  cases action with
  | fail failure => exact (haction failure rfl).elim
  | _ => rfl

theorem Script.run_unfailing (script : Script) (state : State) :
    script.unfailing.run around state = (script.run around state).recovered := by
  induction script generalizing state with
  | done => rfl
  | step action next ih =>
      -- the two scripts part where the action fails, and there both runs end
      by_cases hfails : ∃ failure, action = .fail failure
      · obtain ⟨failure, rfl⟩ := hfails
        rfl
      · have haction : ∀ failure, action ≠ .fail failure :=
          fun failure heq => hfails ⟨failure, heq⟩
        rw [Script.unfailing_step next haction, Script.run_step, Script.run_step,
          Run.recovered_andThen _ (Action.run_not_failed state haction)]
        simp only [ih]

def Handler.unfailing (handler : Handler) : Handler :=
  { handler with script := fun args => (handler.script args).unfailing }

theorem Handler.invoke_unfailing (handler : Handler) (args : List String)
    (state : State) :
    handler.unfailing.invoke around args state =
      (handler.invoke around args state).recovered := by
  unfold Handler.invoke
  rw [Run.recovered_andThen _ (by simp [Run.note])]
  congr 1
  funext next
  exact Script.run_unfailing (handler.script args) next

theorem Handler.map_name_unfailing (handlers : List Handler) :
    (handlers.map Handler.unfailing).map Handler.name = handlers.map Handler.name := by
  rw [List.map_map]
  rfl

theorem Handler.place_unfailing (handler : Handler) (handlers : List Handler) :
    handler.unfailing.place (handlers.map Handler.unfailing) =
      ((handler.place handlers).1.map Handler.unfailing,
        (handler.place handlers).2.map Handler.unfailing) := by
  induction handlers with
  | nil => rfl
  | cons first rest ih =>
      rw [List.map_cons]
      by_cases hname : first.name = handler.name
      · rw [handler.place_cons_of_eq rest hname]
        exact handler.unfailing.place_cons_of_eq _ hname
      · have hother : first.unfailing.name ≠ handler.unfailing.name := hname
        rw [handler.place_cons_of_ne rest hname,
          handler.unfailing.place_cons_of_ne _ hother, ih]
        rfl

def Table.unfailing (table : Table) : Table :=
  ⟨table.handlers.map Handler.unfailing, by
    rw [Handler.map_name_unfailing]
    exact table.nodup⟩

theorem Table.get?_unfailing (table : Table) (name : String) :
    table.unfailing.get? name = (table.get? name).map Handler.unfailing := by
  unfold Table.get? Table.unfailing
  rw [List.find?_map]
  rfl

theorem Table.insert_unfailing (table : Table) (handler : Handler) :
    table.unfailing.insert handler.unfailing =
      ((table.insert handler).1.map Handler.unfailing,
        (table.insert handler).2.unfailing) := by
  have hplace := handler.place_unfailing table.handlers
  simp only [Table.insert, Table.unfailing, hplace]

def Shell.unfailing (shell : Shell) : Shell :=
  { shell with table := shell.table.unfailing }

theorem Shell.help_unfailing (shell : Shell) : shell.unfailing.help = shell.help := by
  unfold Shell.help Shell.unfailing Table.unfailing
  rw [List.flatMap_map]
  rfl

theorem Shell.dispatch_unfailing (shell : Shell) (line : CommandLine) (state : State) :
    shell.unfailing.dispatch around line state =
      (shell.dispatch around line state).recovered := by
  unfold Shell.dispatch
  by_cases hreserved : line.command ∈ Shell.reservedNames
  · rw [if_pos hreserved, if_pos hreserved, Shell.help_unfailing]
    rfl
  · rw [if_neg hreserved, if_neg hreserved]
    have hfound := shell.table.get?_unfailing line.command
    cases hhandler : shell.table.get? line.command with
    | none =>
        rw [hhandler] at hfound
        simp only [Shell.unfailing, hfound, Option.map_none]
        rfl
    | some handler =>
        rw [hhandler] at hfound
        simp only [Shell.unfailing, hfound, Option.map_some]
        exact handler.invoke_unfailing line.args state

def Factory.unfailing (factory : Factory) : Factory :=
  fun settings => (factory settings).map fun handlers => handlers.map Handler.unfailing

/-- The catalog with every handler of its sources made unfailing.  Sources that
cannot be had stay as they are. -/
def Catalog.unfailing (catalog : Catalog) : Catalog :=
  ⟨catalog.entries.map fun entry => (entry.1, Factory.unfailing entry.2)⟩

theorem Catalog.find?_unfailing (catalog : Catalog) (module : String) :
    catalog.unfailing.find? module =
      (catalog.find? module).map Factory.unfailing := by
  unfold Catalog.find? Catalog.unfailing
  rw [← List.map_reverse, List.find?_map, Option.map_map, Option.map_map]
  rfl

theorem Source.handlers_unfailing (settings : Settings) (catalog : Catalog)
    (source : Source) :
    source.handlers settings catalog.unfailing =
      (source.handlers settings catalog).map fun handlers =>
        handlers.map Handler.unfailing := by
  cases source with
  | inProcess => rfl
  | external module =>
      simp only [Source.handlers, Catalog.resolve, Catalog.find?_unfailing]
      by_cases hname : module.isEmpty
      · rw [if_pos hname, if_pos hname]
        rfl
      · rw [if_neg hname, if_neg hname]
        cases catalog.find? module with
        | none => rfl
        | some factory =>
            simp only [Option.map_some, Factory.unfailing]
            cases factory settings <;> rfl

def Registry.unfailing (registry : Registry) : Registry :=
  { registry with
    catalog := registry.catalog.unfailing
    table := registry.table.unfailing }

theorem Registry.add_unfailing (registry : Registry) (handler : Handler) :
    registry.unfailing.add handler.unfailing = (registry.add handler).unfailing := by
  have hinsert := registry.table.insert_unfailing handler
  simp only [Registry.add, Registry.unfailing, hinsert, Table.insertionRecord,
    Option.isSome_map]
  rfl

theorem Registry.addAll_unfailing (registry : Registry) (handlers : List Handler) :
    registry.unfailing.addAll (handlers.map Handler.unfailing) =
      (registry.addAll handlers).unfailing := by
  induction handlers generalizing registry with
  | nil => rfl
  | cons handler rest ih =>
      have hrest := ih (registry.add handler)
      rw [← Registry.add_unfailing] at hrest
      exact hrest

theorem Registry.load_unfailing (registry : Registry) (source : Source) :
    registry.unfailing.load source = (registry.load source).unfailing := by
  have hhandlers := source.handlers_unfailing registry.settings registry.catalog
  unfold Registry.load Registry.tryLoad
  cases hsource : source.handlers registry.settings registry.catalog with
  | error error =>
      rw [hsource] at hhandlers
      simp only [Registry.unfailing, hhandlers, Except.map]
      rfl
  | ok handlers =>
      rw [hsource] at hhandlers
      have hall := registry.addAll_unfailing handlers
      simp only [Registry.unfailing, hhandlers, Except.map, List.length_map] at hall ⊢
      rw [hall]
      rfl

theorem Registry.foldl_load_unfailing (registry : Registry) (sources : List Source) :
    sources.foldl Registry.load registry.unfailing =
      (sources.foldl Registry.load registry).unfailing := by
  induction sources generalizing registry with
  | nil => rfl
  | cons source rest ih =>
      rw [List.foldl_cons, List.foldl_cons, Registry.load_unfailing, ih]

theorem Registry.loadAll_unfailing (settings : Settings) (catalog : Catalog) :
    Registry.loadAll { settings := settings, catalog := catalog.unfailing } =
      (Registry.loadAll { settings := settings, catalog := catalog }).unfailing :=
  Registry.foldl_load_unfailing { settings := settings, catalog := catalog } _

def Session.unfailing (session : Session Output) : Session Output :=
  { session with shell := session.shell.unfailing }

theorem Session.prepare_unfailing (around : Surroundings Output) (settings : Settings)
    (catalog : Catalog) :
    Session.prepare around settings catalog.unfailing =
      ((Session.prepare around settings catalog).1.unfailing,
        (Session.prepare around settings catalog).2) := by
  unfold Session.prepare
  rw [Registry.loadAll_unfailing]
  simp [Session.unfailing, Shell.unfailing, Registry.unfailing, Table.size,
    Table.unfailing]

end

variable {Output : Type}

def Transcript.prompts : Transcript Output → List Output
  | [] => []
  | .shown output :: .read _ :: rest => output :: prompts rest
  | _ :: rest => prompts rest

theorem Transcript.prompts_append {first later : Transcript Output}
    (hlater : ∀ input rest, later ≠ .read input :: rest) :
    Transcript.prompts (first ++ later) = first.prompts ++ later.prompts := by
  fun_induction Transcript.prompts first with
  | case1 => rfl
  | case2 output input rest ih => simp only [List.cons_append, Transcript.prompts, ih]
  | case3 entry rest hother ih =>
      rw [List.cons_append, Transcript.prompts, ih]
      intro output input others hentry hrest
      -- the read would have to be the first entry of `rest` or of `later`
      cases rest with
      | nil => exact hlater input others hrest
      | cons next rest =>
          rw [List.cons_append, List.cons.injEq] at hrest
          exact hother output input rest hentry (by rw [hrest.1])

theorem Transcript.prompts_of_inputs_nil {transcript : Transcript Output}
    (hinputs : transcript.inputs = []) : transcript.prompts = [] := by
  fun_induction Transcript.prompts transcript with
  | case1 => rfl
  | case2 output input rest ih => simp at hinputs
  | case3 entry rest hother ih =>
      rw [Transcript.inputs_cons, List.append_eq_nil_iff] at hinputs
      exact ih hinputs.2

/-! ## Dispatches and their reports -/

structure Dispatch (Output : Type) where
  before : Transcript Output
  line : CommandLine
  run : Run Output

def Dispatch.entries (dispatch : Dispatch Output) : Transcript Output :=
  dispatch.before ++ .dispatched dispatch.line :: dispatch.run.transcript

def Verdict.failure? : Verdict → Option Failure
  | .failed failure => some failure
  | _ => none

namespace Session

variable (session : Session Output)

/-- The dispatches follow one another from a state on: each line is dispatched in
the state that the dispatch before it left, and none is left out. -/
def Performs : State → List (Dispatch Output) → Prop
  | _, [] => True
  | state, first :: rest =>
    first.before.dispatches = [] ∧
      first.run = session.shell.dispatch session.around first.line state ∧
      Performs first.run.state rest

def reported (dispatch : Dispatch Output) : Transcript Output :=
  dispatch.entries ++ session.failureEntries dispatch.line dispatch.run.verdict

/-- Two transcripts of the same dispatches from a state on, of which the first has
the reports. -/
def ReportsApart (state : State) (first second : Transcript Output) : Prop :=
  ∃ dispatches tail, session.Performs state dispatches ∧
    tail.dispatches = [] ∧
    first = dispatches.flatMap session.reported ++ tail ∧
    second = dispatches.flatMap Dispatch.entries ++ tail

variable {session}

theorem ReportsApart.quiet {entries : Transcript Output} (state : State)
    (hquiet : entries.dispatches = []) :
    session.ReportsApart state entries entries :=
  ⟨[], entries, trivial, hquiet, rfl, rfl⟩

theorem ReportsApart.append_left {state : State}
    {first second before : Transcript Output} (hbefore : before.dispatches = [])
    (hapart : session.ReportsApart state first second) :
    session.ReportsApart state (before ++ first) (before ++ second) := by
  obtain ⟨dispatches, tail, hperforms, htail, rfl, rfl⟩ := hapart
  cases dispatches with
  | nil =>
      refine ⟨[], before ++ tail, trivial, ?_, rfl, rfl⟩
      rw [Transcript.dispatches_append, hbefore, htail]
      rfl
  | cons dispatch rest =>
      obtain ⟨hquiet, hrun, hrest⟩ := hperforms
      refine ⟨{ dispatch with before := before ++ dispatch.before } :: rest, tail,
        ⟨?_, hrun, hrest⟩, htail, ?_, ?_⟩
      · rw [Transcript.dispatches_append, hbefore, hquiet]
        rfl
      · simp [reported, Dispatch.entries]
      · simp [Dispatch.entries]

theorem ReportsApart.append_right {state : State}
    {first second after : Transcript Output}
    (hapart : session.ReportsApart state first second)
    (hafter : after.dispatches = []) :
    session.ReportsApart state (first ++ after) (second ++ after) := by
  obtain ⟨dispatches, tail, hperforms, htail, rfl, rfl⟩ := hapart
  refine ⟨dispatches, tail ++ after, hperforms, ?_, ?_, ?_⟩
  · rw [Transcript.dispatches_append, htail, hafter]
    rfl
  · rw [List.append_assoc]
  · rw [List.append_assoc]

theorem ReportsApart.filterMap_eq {View : Type} {view : Entry Output → Option View}
    {state : State} {first second : Transcript Output}
    (hapart : session.ReportsApart state first second)
    (hshown : ∀ output, view (.shown output) = none)
    (hlogged : ∀ record, view (.logged record) = none) :
    first.filterMap view = second.filterMap view := by
  obtain ⟨dispatches, tail, _, _, rfl, rfl⟩ := hapart
  have hreported : ∀ dispatch, (session.reported dispatch).filterMap view =
      dispatch.entries.filterMap view := by
    intro dispatch
    have hnone := Transcript.filterMap_eq_nil_of_telling
      (session.failureEntries_telling dispatch.line dispatch.run.verdict)
      hshown hlogged
    rw [reported, List.filterMap_append, hnone, List.append_nil]
  rw [List.filterMap_append, List.filterMap_append, List.filterMap_flatMap,
    List.filterMap_flatMap]
  simp only [hreported]

theorem outputs_reported (dispatch : Dispatch Output) :
    (session.reported dispatch).outputs = dispatch.entries.outputs ++
      (dispatch.run.verdict.failure?.map fun failure =>
        session.around.console.render
          (.error (String.intercalate ": " failure.chain))).toList := by
  rw [reported, Transcript.outputs_append]
  congr 1
  cases dispatch.run.verdict <;> rfl

theorem outputs_flatMap {Item : Type} (entries : Item → Transcript Output)
    (items : List Item) :
    Transcript.outputs (items.flatMap entries) =
      items.flatMap fun item => (entries item).outputs :=
  List.filterMap_flatMap

/-! ## The two sessions side by side -/

theorem Verdict.reported_reported (verdict : Verdict) :
    verdict.reported.reported = verdict.reported := by
  cases verdict <;> rfl

theorem failureEntries_reported (line : CommandLine) (verdict : Verdict) :
    session.failureEntries line verdict.reported = [] := by
  cases verdict <;> rfl

variable (session) in
theorem dispatch_unfailing (line : CommandLine) (state : State) :
    session.unfailing.shell.dispatch session.unfailing.around line state =
      (session.shell.dispatch session.around line state).recovered :=
  session.shell.dispatch_unfailing line state

theorem episode_unfailing (line : CommandLine) (state : State) :
    session.unfailing.episode line state =
      .dispatched line ::
        (session.shell.dispatch session.around line state).transcript := by
  have hnone : session.unfailing.failureEntries line
      (session.shell.dispatch session.around line state).recovered.verdict = [] :=
    failureEntries_reported line _
  simp only [episode, dispatch_unfailing, hnone, List.append_nil]
  rfl

theorem stateAfter_unfailing (state : State) (input : Input) :
    session.unfailing.stateAfter state input = session.stateAfter state input := by
  cases input with
  | failure message => rfl
  | interrupt => rfl
  | line text =>
      cases hline : CommandLine.parse? text with
      | none => simp only [stateAfter, hline]
      | some line => simp only [stateAfter, hline, dispatch_unfailing, Run.recovered]

theorem verdictAfter_unfailing (state : State) (input : Input) :
    session.unfailing.verdictAfter state input = session.verdictAfter state input := by
  cases input with
  | failure message => rfl
  | interrupt => rfl
  | line text =>
      cases hline : CommandLine.parse? text with
      | none => simp only [verdictAfter, hline]
      | some line =>
          simp only [verdictAfter, hline, dispatch_unfailing, Run.recovered,
            Verdict.reported_reported]

theorem ReportsApart.episode {state : State} {line : CommandLine}
    {before first second : Transcript Output} (hbefore : before.dispatches = [])
    (hapart : session.ReportsApart
      (session.shell.dispatch session.around line state).state first second) :
    session.ReportsApart state (before ++ session.episode line state ++ first)
      (before ++ session.unfailing.episode line state ++ second) := by
  obtain ⟨dispatches, tail, hperforms, htail, rfl, rfl⟩ := hapart
  let dispatch : Dispatch Output :=
    ⟨before, line, session.shell.dispatch session.around line state⟩
  refine ⟨dispatch :: dispatches, tail, ⟨hbefore, rfl, hperforms⟩, htail, ?_, ?_⟩
  · simp [dispatch, reported, Dispatch.entries, Session.episode]
  · simp [dispatch, Dispatch.entries, episode_unfailing]

theorem lastExchange_reportsApart (state : State) :
    session.ReportsApart state (session.lastExchange state)
      (session.unfailing.lastExchange state) := by
  have hnone : session.ReportsApart
      (session.shell.dispatch session.around exitLine state).state [] [] :=
    .quiet _ rfl
  have hbefore : Transcript.dispatches (session.reading state none ++
      [.shown (session.around.console.render (.writeLine ""))]) = [] := rfl
  have hepisode := hnone.episode hbefore
  rw [List.append_nil, List.append_nil] at hepisode
  exact hepisode

theorem ReportsApart.exchange_line {state : State} {text : String}
    {first second : Transcript Output}
    (hapart : session.ReportsApart (session.stateAfter state (.line text)) first second) :
    session.ReportsApart state (session.exchange state (.line text) ++ first)
      (session.unfailing.exchange state (.line text) ++ second) := by
  cases hline : CommandLine.parse? text with
  | none =>
      rw [exchange_blank session state hline, exchange_blank _ state hline]
      simp only [stateAfter, hline] at hapart
      exact hapart.append_left (session.dispatches_reading state _)
  | some line =>
      rw [Session.exchange_line session state hline,
        Session.exchange_line _ state hline]
      simp only [stateAfter, hline] at hapart
      exact hapart.episode (session.dispatches_reading state _)

theorem exchange_reportsApart (state : State) (input : Input) :
    session.ReportsApart state (session.exchange state input)
      (session.unfailing.exchange state input) := by
  cases input with
  | failure message => exact .quiet state rfl
  | interrupt => exact .quiet state rfl
  | line text =>
      have hnone : session.ReportsApart (session.stateAfter state (.line text)) [] [] :=
        .quiet _ rfl
      simpa only [List.append_nil] using hnone.exchange_line

variable (session) in
structure Alike (start : State) (first second : Run Output) : Prop where
  transcript : session.ReportsApart start first.transcript second.transcript
  state : second.state = first.state
  verdict : second.verdict = first.verdict

theorem Alike.refl {start : State} {run : Run Output}
    (hquiet : run.transcript.dispatches = []) : session.Alike start run run :=
  ⟨.quiet start hquiet, rfl, rfl⟩

theorem loop_alike_of_cancelled (inputs : List Input) {state : State}
    (hcancelled : state.cancelled = true) :
    session.Alike state (session.loop inputs state)
      (session.unfailing.loop inputs state) := by
  rw [session.loop_of_cancelled inputs hcancelled,
    session.unfailing.loop_of_cancelled inputs hcancelled]
  exact .refl rfl

theorem turn_andThen_loop_alike {state : State} (input : Input) {rest : List Input}
    (hrest : session.Alike (session.stateAfter state input)
      (session.loop rest (session.stateAfter state input))
      (session.unfailing.loop rest (session.stateAfter state input))) :
    session.Alike state
      ((session.turn (some input) state).andThen (session.loop rest))
      ((session.unfailing.turn (some input) state).andThen
        (session.unfailing.loop rest)) := by
  have hexchange := session.exchange_reportsApart state input
  rw [turn_some, turn_some, stateAfter_unfailing, verdictAfter_unfailing]
  cases hverdict : session.verdictAfter state input with
  | failed failure => exact ⟨hexchange, rfl, rfl⟩
  | exited code => exact ⟨hexchange, rfl, rfl⟩
  | done =>
      rw [Run.andThen_done, Run.andThen_done]
      refine ⟨?_, hrest.state, hrest.verdict⟩
      cases input with
      | failure message => simp [verdictAfter] at hverdict
      | interrupt =>
          have hstop : (session.stateAfter state .interrupt).cancelled = true := rfl
          simp only [session.loop_of_cancelled rest hstop,
            session.unfailing.loop_of_cancelled rest hstop]
          exact .quiet state rfl
      | line text => exact hrest.transcript.exchange_line

variable (session) in
theorem loop_alike (inputs : List Input) (state : State) :
    session.Alike state (session.loop inputs state)
      (session.unfailing.loop inputs state) := by
  induction inputs generalizing state with
  | nil =>
      by_cases hcancelled : state.cancelled = true
      · exact loop_alike_of_cancelled [] hcancelled
      · rw [loop, if_neg hcancelled, loop, if_neg hcancelled, turn_none, turn_none]
        constructor
        · exact lastExchange_reportsApart state
        · simp only [dispatch_unfailing, Run.recovered]
        · simp only [dispatch_unfailing, Run.recovered, Verdict.reported_reported]
  | cons input rest ih =>
      by_cases hcancelled : state.cancelled = true
      · exact loop_alike_of_cancelled (input :: rest) hcancelled
      · rw [loop, if_neg hcancelled, loop, if_neg hcancelled]
        exact turn_andThen_loop_alike input (ih (session.stateAfter state input))

theorem episode_not_read (line : CommandLine) (state : State) (input : Option Input)
    (rest : Transcript Output) :
    session.episode line state ≠ .read input :: rest := by
  simp [episode]

theorem prompts_exchange (state : State) (input : Input) :
    (session.exchange state input).prompts =
      [session.around.console.render (.write state.prompt)] := by
  cases input with
  | failure message => rfl
  | interrupt => rfl
  | line text =>
      cases hline : CommandLine.parse? text with
      | none =>
          rw [Session.exchange_blank session state hline]
          rfl
      | some line =>
          have hepisode :=
            Transcript.prompts_of_inputs_nil (session.inputs_episode line state)
          rw [Session.exchange_line session state hline,
            Transcript.prompts_append (episode_not_read line state), hepisode]
          rfl

theorem prompts_lastExchange (state : State) :
    (session.lastExchange state).prompts =
      [session.around.console.render (.write state.prompt)] := by
  have hepisode :=
    Transcript.prompts_of_inputs_nil (session.inputs_episode exitLine state)
  rw [lastExchange_eq, Transcript.prompts_append (episode_not_read exitLine state),
    hepisode]
  rfl

theorem loop_not_read (inputs : List Input) (state : State) (input : Option Input)
    (rest : Transcript Output) :
    (session.loop inputs state).transcript ≠ .read input :: rest := by
  have hcourse := session.loop_course inputs state
  generalize session.loop inputs state = run at hcourse
  cases hcourse with
  | unopened _ hcancelled => simp [Run.idle]
  | ended _ hopen =>
      cases inputs with
      | nil => simp [account, lastExchange]
      | cons first others => simp [account, exchange]
  | stopped earlier last later hearlier hclosed =>
      cases earlier with
      | nil => simp [account, exchange]
      | cons first others => simp [account, exchange]

theorem prompts_loop_unfailing (inputs : List Input) (state : State) :
    (session.unfailing.loop inputs state).transcript.prompts =
      (session.loop inputs state).transcript.prompts := by
  induction inputs generalizing state with
  | nil =>
      by_cases hcancelled : state.cancelled = true
      · rw [session.loop_of_cancelled [] hcancelled,
          session.unfailing.loop_of_cancelled [] hcancelled]
      · rw [loop, if_neg hcancelled, loop, if_neg hcancelled, turn_none, turn_none]
        simp only [prompts_lastExchange]
        rfl
  | cons input rest ih =>
      by_cases hcancelled : state.cancelled = true
      · rw [session.loop_of_cancelled (input :: rest) hcancelled,
          session.unfailing.loop_of_cancelled (input :: rest) hcancelled]
      · rw [loop, if_neg hcancelled, loop, if_neg hcancelled, turn_some, turn_some,
          stateAfter_unfailing, verdictAfter_unfailing]
        have hprompt : (session.unfailing.exchange state input).prompts =
            (session.exchange state input).prompts := by
          rw [prompts_exchange, prompts_exchange]
          rfl
        cases session.verdictAfter state input with
        | failed failure => exact hprompt
        | exited code => exact hprompt
        | done =>
            rw [Run.andThen_done, Run.andThen_done]
            simp only [Transcript.prompts_append (loop_not_read rest _), hprompt, ih]

/-! ## Whole sessions -/

theorem preface_unfailing (log : List LogRecord) :
    session.unfailing.preface log = session.preface log := rfl

theorem prompts_enclose (log : List LogRecord) (inputs : List Input) (state : State) :
    (session.enclose log (session.loop inputs state)).transcript.prompts =
      (session.loop inputs state).transcript.prompts := by
  have hpreface := Transcript.prompts_of_inputs_nil
    (Transcript.inputs_of_telling (session.preface_telling log))
  have hclosing := Transcript.prompts_of_inputs_nil (Transcript.inputs_map_logged
    (closing (session.loop inputs state).verdict) : Transcript.inputs
      (_ : Transcript Output) = [])
  have hlogged : ∀ input rest,
      (closing (session.loop inputs state).verdict).map .logged ≠
        (.read input :: rest : Transcript Output) := by
    intro input rest
    cases (session.loop inputs state).verdict <;> simp [closing]
  simp only [enclose]
  rw [Transcript.prompts_append hlogged,
    Transcript.prompts_append (loop_not_read inputs state), hpreface, hclosing,
    List.nil_append, List.append_nil]

/-- Failures of commands are reported and change nothing else.  Against the session
whose catalog is unfailing, a session reads the same inputs, dispatches the same
command lines, shows the same prompts, records the same exit codes and ends in the
same state with the same verdict; and its transcript is the other one with the
report of each failure, one error on the console with the chain of the failure,
directly after all that the dispatch that failed left. -/
theorem runFrom_failures_are_only_reported (around : Surroundings Output)
    (settings : Settings) (catalog : Catalog) (cancelled : Bool)
    (inputs : List Input) :
    let session := (Session.prepare around settings catalog).1
    let start := session.initialState cancelled
    let run := Session.runFrom around settings catalog cancelled inputs
    let unfailing := Session.runFrom around settings catalog.unfailing cancelled inputs
    run.transcript.inputs = unfailing.transcript.inputs ∧
    run.transcript.dispatches = unfailing.transcript.dispatches ∧
    run.transcript.prompts = unfailing.transcript.prompts ∧
    run.transcript.exitCodes = unfailing.transcript.exitCodes ∧
    run.state = unfailing.state ∧ run.verdict = unfailing.verdict ∧
    ∃ dispatches tail,
      session.Performs start dispatches ∧ tail.dispatches = [] ∧
      run.transcript = dispatches.flatMap session.reported ++ tail ∧
      unfailing.transcript = dispatches.flatMap Dispatch.entries ++ tail ∧
      run.transcript.outputs =
        (dispatches.flatMap fun dispatch => dispatch.entries.outputs ++
          (dispatch.run.verdict.failure?.map fun failure =>
            around.console.render
              (.error (String.intercalate ": " failure.chain))).toList) ++
          tail.outputs ∧
      unfailing.transcript.outputs =
        (dispatches.flatMap fun dispatch => dispatch.entries.outputs) ++
          tail.outputs := by
  intro session start run unfailing
  let log := (Session.prepare around settings catalog).2
  have hrun : run = session.enclose log (session.loop inputs start) :=
    Session.runFrom_eq around settings catalog cancelled inputs
  have hunfailing : unfailing =
      session.unfailing.enclose log (session.unfailing.loop inputs start) := by
    have heq := Session.runFrom_eq around settings catalog.unfailing cancelled inputs
    rw [Session.prepare_unfailing] at heq
    exact heq
  have halike := session.loop_alike inputs start
  have hpreface := Transcript.dispatches_of_telling (session.preface_telling log)
  have hapart : session.ReportsApart start run.transcript unfailing.transcript := by
    rw [hrun, hunfailing]
    simp only [enclose, preface_unfailing, halike.verdict]
    exact (halike.transcript.append_left hpreface).append_right
      (Transcript.dispatches_map_logged _)
  refine ⟨?_, ?_, ?_, ?_, ?_, ?_, ?_⟩
  · exact hapart.filterMap_eq (fun _ => rfl) (fun _ => rfl)
  · exact hapart.filterMap_eq (fun _ => rfl) (fun _ => rfl)
  · rw [hrun, hunfailing, prompts_enclose, prompts_enclose, prompts_loop_unfailing]
  · exact hapart.filterMap_eq (fun _ => rfl) (fun _ => rfl)
  · rw [hrun, hunfailing]
    exact halike.state.symm
  · rw [hrun, hunfailing]
    exact halike.verdict.symm
  · obtain ⟨dispatches, tail, hperforms, htail, hfirst, hsecond⟩ := hapart
    refine ⟨dispatches, tail, hperforms, htail, hfirst, hsecond, ?_, ?_⟩
    · rw [hfirst, Transcript.outputs_append, outputs_flatMap]
      simp only [outputs_reported]
      rfl
    · rw [hsecond, Transcript.outputs_append, outputs_flatMap]

end Session

end CommandShell
