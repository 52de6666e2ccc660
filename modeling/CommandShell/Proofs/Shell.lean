import CommandShell.Proofs.Registry.Loading
import CommandShell.Session

/-! # What a shell answers -/

namespace CommandShell

def Handler.entry (handler : Handler) : String × String :=
  (handler.name, handler.description)

theorem Table.map_fst_entry (table : Table) :
    (table.handlers.map Handler.entry).map Prod.fst = table.names := by
  rw [List.map_map]
  rfl

theorem Table.mem_entries_iff {table : Table} {name : String} {handler : Handler}
    (hfound : table.get? name = some handler) (description : String) :
    (name, description) ∈ table.handlers.map Handler.entry ↔
      description = handler.description := by
  constructor
  · intro hmem
    obtain ⟨other, hother, hentry⟩ := List.mem_map.mp hmem
    obtain ⟨hname, hdescription⟩ := Prod.mk.inj hentry
    have hsame : table.get? name = some other :=
      Table.get?_eq_some_iff.mpr ⟨hother, hname⟩
    rw [hfound, Option.some.injEq] at hsame
    rw [hsame, hdescription]
  · rintro rfl
    obtain ⟨hmem, rfl⟩ := Table.get?_eq_some_iff.mp hfound
    exact List.mem_map_of_mem hmem

namespace Shell

/-- A rule underlines a title if it is a run of `-` of the same length. -/
def Underlines (rule title : String) : Prop :=
  rule.length = title.length ∧ ∀ char ∈ rule.toList, char = '-'

def listing (appName rule : String) (entries : List (String × String)) : List Call :=
  .writeLine ("\n" ++ (appName ++ " - Command Line Help") ++ "\n" ++ rule ++ "\n") ::
    entries.flatMap fun entry =>
      [.writeLine entry.1, .writeLine ("  " ++ entry.2 ++ "\n")]

def rule (appName : String) : String :=
  String.ofList (List.replicate (appName ++ " - Command Line Help").length '-')

theorem underlines_rule (appName : String) :
    Underlines (rule appName) (appName ++ " - Command Line Help") := by
  constructor
  · simp [rule]
  · intro char hmem
    rw [rule, String.toList_ofList] at hmem
    exact List.eq_of_mem_replicate hmem

theorem help_eq_listing (shell : Shell) :
    shell.help =
      listing shell.appName (rule shell.appName) (shell.table.handlers.map Handler.entry) := by
  rw [help, listing, List.flatMap_map]
  rfl

end Shell

/-! ## The routes -/

inductive Route where
  | help
  | unknown
  | invoke (handler : Handler)

namespace Route

/-- The route that a command takes once handlers were inserted one after another.
Reserved names come first; for any other name the last handler inserted under
exactly this name counts. -/
def Serves (inserted : List Handler) (command : String) : Route → Prop
  | help => command ∈ ["help", "?"]
  | unknown => command ∉ ["help", "?"] ∧ ∀ other ∈ inserted, other.name ≠ command
  | invoke handler => command ∉ ["help", "?"] ∧
      Table.LastNamed inserted command handler

variable {Output : Type}

/-- All that a route leaves.  A handler's own run follows the record that it is
handling the command, and nothing is added to what it shows, to the state that it
leaves or to how it ends. -/
def run (shell : Shell) (around : Surroundings Output) (line : CommandLine)
    (state : State) : Route → Run Output
  | help =>
    ⟨(Shell.listing shell.appName (Shell.rule shell.appName)
        (shell.table.handlers.map Handler.entry)).map fun call =>
          .shown (around.console.render call),
      state, .done⟩
  | unknown =>
    ⟨[.logged (.unknownCommand line.command),
        .shown (around.console.render
          (.writeColored "\nError: Unknown Command '" Color.firebrick)),
        .shown (around.console.render
          (.writeColored line.command Color.mediumSlateBlue)),
        .shown (around.console.render (.writeLineColored "'\n" Color.firebrick))],
      state, .done⟩
  | invoke handler =>
    let ran := (handler.script line.args).run around state
    ⟨.logged (.handling handler.name) :: ran.transcript, ran.state, ran.verdict⟩

theorem Serves.unique {inserted : List Handler} {command : String}
    {first second : Route} (hfirst : first.Serves inserted command)
    (hsecond : second.Serves inserted command) : first = second := by
  cases first with
  | help =>
      cases second with
      | help => rfl
      | unknown => exact (hsecond.1 hfirst).elim
      | invoke other => exact (hsecond.1 hfirst).elim
  | unknown =>
      cases second with
      | help => exact (hfirst.1 hsecond).elim
      | unknown => rfl
      | invoke other =>
          obtain ⟨_, earlier, later, rfl, hname, _⟩ := hsecond
          exact (hfirst.2 other (by simp) hname).elim
  | invoke handler =>
      cases second with
      | help => exact (hfirst.1 hsecond).elim
      | unknown =>
          obtain ⟨_, earlier, later, rfl, hname, _⟩ := hfirst
          exact (hsecond.2 handler (by simp) hname).elim
      | invoke other =>
          have hfound :=
            (Table.get?_empty_insertAll_eq_some_iff inserted command handler).mpr hfirst.2
          rw [Table.get?_insertAll_of_lastNamed hsecond.2, Option.some.injEq] at hfound
          rw [hfound]

theorem exists_serves (inserted : List Handler) (command : String) :
    ∃ route : Route, route.Serves inserted command := by
  by_cases hreserved : command ∈ ["help", "?"]
  · exact ⟨.help, hreserved⟩
  · rcases Table.lastNamed_or_not_named inserted command with ⟨handler, hlast⟩ | hnone
    · exact ⟨.invoke handler, hreserved, hlast⟩
    · exact ⟨.unknown, hreserved, hnone⟩

end Route

namespace Shell

variable {Output : Type}

theorem dispatch_reserved (shell : Shell) (around : Surroundings Output)
    {line : CommandLine} (state : State) (hreserved : line.command ∈ ["help", "?"]) :
    shell.dispatch around line state = Route.help.run shell around line state := by
  rw [dispatch, if_pos (by exact hreserved), help_eq_listing]
  rfl

theorem dispatch_unknown {shell : Shell} (around : Surroundings Output)
    {line : CommandLine} (state : State) (hreserved : line.command ∉ ["help", "?"])
    (hnone : shell.table.get? line.command = none) :
    shell.dispatch around line state = Route.unknown.run shell around line state := by
  rw [dispatch, if_neg (by exact hreserved), hnone]
  rfl

theorem dispatch_handler {shell : Shell} (around : Surroundings Output)
    {line : CommandLine} {handler : Handler} (state : State)
    (hreserved : line.command ∉ ["help", "?"])
    (hfound : shell.table.get? line.command = some handler) :
    shell.dispatch around line state =
      (Route.invoke handler).run shell around line state := by
  rw [dispatch, if_neg (by exact hreserved), hfound]
  rfl

theorem dispatch_cases (shell : Shell) (around : Surroundings Output) (line : CommandLine)
    (state : State) :
    shell.dispatch around line state = around.calls shell.help state ∨
      shell.dispatch around line state =
        (Run.note [.logged (.unknownCommand line.command)] state).andThen
          (around.calls (unknown line.command)) ∨
      ∃ handler ∈ shell.table.handlers, handler.name = line.command ∧
        shell.dispatch around line state = handler.invoke around line.args state := by
  unfold dispatch
  split
  · exact Or.inl rfl
  · cases hfound : shell.table.get? line.command with
    | none => exact Or.inr (Or.inl rfl)
    | some handler =>
        have hmem := List.mem_of_find?_eq_some hfound
        have hnamed : handler.name = line.command := by
          simpa using List.find?_some hfound
        exact Or.inr (Or.inr ⟨handler, hmem, hnamed, rfl⟩)

/-- Exactly one route serves each command, whatever was inserted into the table, and
the dispatch of a line leaves what this route leaves and nothing else. -/
theorem dispatch_takes_the_only_route (appName : String) (inserted : List Handler)
    (around : Surroundings Output) (line : CommandLine) (state : State) :
    let shell : Shell := ⟨appName, Table.empty.insertAll inserted⟩
    ∃ route : Route, route.Serves inserted line.command ∧
      (∀ other : Route, other.Serves inserted line.command → other = route) ∧
      shell.dispatch around line state = route.run shell around line state := by
  intro shell
  obtain ⟨route, hserves⟩ := Route.exists_serves inserted line.command
  refine ⟨route, hserves, fun other hother => hother.unique hserves, ?_⟩
  cases route with
  | help => exact shell.dispatch_reserved around state hserves
  | unknown =>
      have hnone := (Table.get?_empty_insertAll_eq_none_iff inserted line.command).mpr
        hserves.2
      exact dispatch_unknown around state hserves.1 hnone
  | invoke handler =>
      have hfound :=
        (Table.get?_empty_insertAll_eq_some_iff inserted line.command handler).mpr
          hserves.2
      exact dispatch_handler around state hserves.1 hfound

/-! ## Listing and dispatch -/

variable (around : Surroundings Output) {line : CommandLine}

theorem dispatch_found {shell : Shell} {handler : Handler} (state : State)
    (hreserved : line.command ∉ ["help", "?"])
    (hfound : shell.table.get? line.command = some handler) :
    shell.dispatch around line state = handler.invoke around line.args state := by
  rw [dispatch_handler around state hreserved hfound]
  rfl

theorem invoke_ne_unknown (shell : Shell) (handler : Handler) (state : State) :
    (Route.invoke handler).run shell around line state ≠
      Route.unknown.run shell around line state := by
  intro hsame
  -- the two begin with different records
  have hfirst := congrArg (fun run => run.transcript.head?) hsame
  simp [Route.run] at hfirst

theorem names_iff_invokes (shell : Shell) (state : State)
    (hreserved : line.command ∉ ["help", "?"]) :
    (line.command ∈ shell.table.names ↔ ∃ handler ∈ shell.table.handlers,
        handler.name = line.command ∧ shell.dispatch around line state =
          (Route.invoke handler).run shell around line state) ∧
      (line.command ∉ shell.table.names ↔
        shell.dispatch around line state = Route.unknown.run shell around line state) := by
  cases hfound : shell.table.get? line.command with
  | some handler =>
      have hmem : line.command ∈ shell.table.names :=
        Table.mem_names_iff.mpr ⟨handler, hfound⟩
      have hinvoke := dispatch_handler around state hreserved hfound
      obtain ⟨hhandler, hname⟩ := Table.get?_eq_some_iff.mp hfound
      constructor
      · exact iff_of_true hmem ⟨handler, hhandler, hname, hinvoke⟩
      · apply iff_of_false (not_not_intro hmem)
        rw [hinvoke]
        exact shell.invoke_ne_unknown around handler state
  | none =>
      have hnone : line.command ∉ shell.table.names := by
        rw [Table.mem_names_iff, hfound]
        simp
      have hunknown := dispatch_unknown around state hreserved hfound
      constructor
      · apply iff_of_false hnone
        rintro ⟨handler, -, -, hinvoke⟩
        exact shell.invoke_ne_unknown around handler state (hinvoke.symm.trans hunknown)
      · exact iff_of_true hnone hunknown

/-- After any history of loading, help lists every registered name once, in the order
in which the names first came, under a title and a rule of its length.  A name that is
not reserved is listed just if dispatching it invokes a handler, and with the
description of the handler that serves it. -/
theorem listing_agrees_with_dispatch (settings : Settings) (catalog : Catalog)
    (operations : List Registry.Operation) (appName : String) :
    let fresh : Registry := { settings := settings, catalog := catalog }
    let registered := operations.flatMap fresh.registered
    let shell : Shell := ⟨appName, (fresh.performAll operations).table⟩
    ∃ (rule : String) (entries : List (String × String)),
      Underlines rule (appName ++ " - Command Line Help") ∧
      entries.map Prod.fst = (registered.map Handler.name).eraseDups ∧
      (entries.map Prod.fst).Nodup ∧
      ∀ (around : Surroundings Output) (line : CommandLine) (state : State),
        (line.command ∈ ["help", "?"] →
          shell.dispatch around line state =
            around.calls (listing appName rule entries) state) ∧
        (line.command ∉ ["help", "?"] →
          (line.command ∈ entries.map Prod.fst ↔ ∃ handler ∈ shell.table.handlers,
            handler.name = line.command ∧ shell.dispatch around line state =
              (Route.invoke handler).run shell around line state) ∧
          (line.command ∉ entries.map Prod.fst ↔
            shell.dispatch around line state =
              Route.unknown.run shell around line state) ∧
          (∀ handler, (Route.invoke handler).run shell around line state ≠
            Route.unknown.run shell around line state) ∧
          ∀ handler, (Route.invoke handler).Serves registered line.command →
            shell.dispatch around line state =
              (Route.invoke handler).run shell around line state ∧
            ∀ description, (line.command, description) ∈ entries ↔
              description = handler.description) := by
  intro fresh registered shell
  have htable : shell.table = Table.empty.insertAll registered :=
    (fresh.performAll_gained operations).table
  have hnames := shell.table.map_fst_entry
  refine ⟨rule appName, shell.table.handlers.map Handler.entry, underlines_rule appName,
    ?_, ?_, ?_⟩
  · rw [hnames, htable, Table.names_empty_insertAll]
  · rw [hnames]
    exact shell.table.nodup
  · intro around line state
    refine ⟨?_, ?_⟩
    · intro hreserved
      rw [dispatch, if_pos (by exact hreserved), help_eq_listing]
    · intro hreserved
      have hiff := shell.names_iff_invokes around state hreserved
      rw [hnames]
      refine ⟨hiff.1, hiff.2, fun handler => shell.invoke_ne_unknown around handler state, ?_⟩
      intro handler hserves
      have hfound : shell.table.get? line.command = some handler := by
        rw [htable]
        exact Table.get?_insertAll_of_lastNamed hserves.2
      exact ⟨dispatch_handler around state hreserved hfound, Table.mem_entries_iff hfound⟩

end Shell
end CommandShell
