import CommandShell.Proofs.Registry.Loading
import CommandShell.Proofs.Registry.Trying

/-! # What the log accounts for -/

namespace CommandShell

/-- The form in which a record is written. -/
structure LogRecord.Form where
  severity : Severity
  message : String
  fields : List (String × FieldValue)

def LogRecord.form (record : LogRecord) : Form :=
  ⟨record.severity, record.message, record.fields⟩

theorem Table.insertionRecord_insert (table : Table) (handler : Handler) :
    Table.insertionRecord handler (table.insert handler).1 =
      if handler.name ∈ table.names then .commandReplaced handler.name
      else .commandRegistered handler.name := by
  rw [insert_fst, insertionRecord]
  simp only [mem_names_iff, ← Option.isSome_iff_exists]

namespace Registry

inductive Event where
  | registered (handler : Handler)
  | loaded (source : Source) (count : Nat)
  | failed (source : Source) (error : SourceError)

def Event.handler? : Event → Option Handler
  | registered handler => some handler
  | _ => none

/-- What an event makes of a table and how the log tells it. -/
inductive Step : Table → Event → Table → List LogRecord.Form → Prop
  | new {table : Table} {handler : Handler} : handler.name ∉ table.names →
      Step table (.registered handler) (table.insert handler).2
        [⟨.debug, "Add '" ++ handler.name ++ "' to command table",
          [("command", .text handler.name)]⟩,
        ⟨.debug, "Handler for Command '" ++ handler.name ++ "' registered",
          [("command", .text handler.name)]⟩]
  | again {table : Table} {handler : Handler} : handler.name ∈ table.names →
      Step table (.registered handler) (table.insert handler).2
        [⟨.debug, "Add '" ++ handler.name ++ "' to command table",
          [("command", .text handler.name)]⟩,
        ⟨.warn, "command '" ++ handler.name ++
          "' registered more than once; the last registration wins",
          [("command", .text handler.name)]⟩]
  | loaded (table : Table) (source : Source) (count : Nat) :
      Step table (.loaded source count) table
        [⟨.info, "command source loaded",
          [("source", .text source.shown), ("count", .number count)]⟩]
  | failed (table : Table) (source : Source) (error : SourceError) :
      Step table (.failed source error) table
        [⟨.error, "Failed to load command source '" ++ source.shown ++ "'",
          [("source", .text source.shown), ("error", .text error.message)]⟩]

inductive Steps : Table → List Event → Table → List LogRecord.Form → Prop
  | nil (table : Table) : Steps table [] table []
  | cons {first second third : Table} {event : Event} {rest : List Event}
      {forms later : List LogRecord.Form} : Step first event second forms →
      Steps second rest third later → Steps first (event :: rest) third (forms ++ later)

theorem Steps.append {first second third : Table} {earlier later : List Event}
    {forms others : List LogRecord.Form} (hfirst : Steps first earlier second forms)
    (hsecond : Steps second later third others) :
    Steps first (earlier ++ later) third (forms ++ others) := by
  induction hfirst with
  | nil table => exact hsecond
  | cons hstep hrest ih =>
      rw [List.append_assoc]
      exact .cons hstep (ih hsecond)

def warnings (forms : List LogRecord.Form) : Nat :=
  (forms.filter fun form => form.severity = .warn).length

theorem warnings_append (forms later : List LogRecord.Form) :
    warnings (forms ++ later) = warnings forms + warnings later := by
  rw [warnings, List.filter_append, List.length_append]
  rfl

theorem Step.warnings_add_size {table after : Table} {event : Event}
    {forms : List LogRecord.Form} (hstep : Step table event after forms) :
    warnings forms + after.size = table.size + event.handler?.toList.length := by
  -- a registration adds one to the left side: a warning, or a place in the table
  cases hstep with
  | new hnew =>
      rw [Table.size_insert, if_neg hnew]
      exact Nat.zero_add _
  | again hagain =>
      rw [Table.size_insert, if_pos hagain]
      exact Nat.add_comm _ _
  | loaded source count => exact Nat.zero_add _
  | failed source error => exact Nat.zero_add _

theorem Steps.warnings_add_size {table after : Table} {events : List Event}
    {forms : List LogRecord.Form} (hsteps : Steps table events after forms) :
    warnings forms + after.size =
      table.size + (events.filterMap Event.handler?).length := by
  induction hsteps with
  | nil table => exact Nat.add_comm _ _
  | @cons first second third event rest forms later hstep hrest ih =>
      have hfirst := hstep.warnings_add_size
      have hcount : ((event :: rest).filterMap Event.handler?).length =
          event.handler?.toList.length + (rest.filterMap Event.handler?).length := by
        cases hhandler : event.handler? <;> simp [hhandler, Nat.add_comm]
      rw [warnings_append, hcount]
      omega

/-! ## What operations tell -/

/-- The events lead from one registry to another, and the log tells them and nothing
else. -/
def Tells (before : Registry) (events : List Event) (after : Registry) : Prop :=
  ∃ forms, Steps before.table events after.table forms ∧
    after.log.map LogRecord.form = before.log.map LogRecord.form ++ forms

theorem Tells.nothing (registry : Registry) : registry.Tells [] registry :=
  ⟨[], .nil registry.table, by rw [List.append_nil]⟩

theorem Tells.append {first second third : Registry} {earlier later : List Event}
    (hfirst : first.Tells earlier second) (hsecond : second.Tells later third) :
    first.Tells (earlier ++ later) third := by
  obtain ⟨forms, hsteps, hlog⟩ := hfirst
  obtain ⟨others, hothers, hmore⟩ := hsecond
  refine ⟨forms ++ others, hsteps.append hothers, ?_⟩
  rw [hmore, hlog, List.append_assoc]

theorem add_tells (registry : Registry) (handler : Handler) :
    registry.Tells [.registered handler] (registry.add handler) := by
  have hlog : (registry.add handler).log = registry.log ++
      [.addingCommand handler.name,
        Table.insertionRecord handler (registry.table.insert handler).1] := rfl
  rw [Table.insertionRecord_insert] at hlog
  by_cases hname : handler.name ∈ registry.table.names
  · rw [if_pos hname] at hlog
    exact ⟨_, .cons (.again hname) (.nil _), by rw [hlog, List.map_append]; rfl⟩
  · rw [if_neg hname] at hlog
    exact ⟨_, .cons (.new hname) (.nil _), by rw [hlog, List.map_append]; rfl⟩

theorem note_tells (registry : Registry) {event : Event} {record : LogRecord}
    (hstep : Step registry.table event registry.table [record.form]) :
    registry.Tells [event] (registry.note record) :=
  ⟨[record.form] ++ [], .cons hstep (.nil registry.table), List.map_append⟩

theorem addAll_tells (registry : Registry) (handlers : List Handler) :
    registry.Tells (handlers.map .registered) (registry.addAll handlers) := by
  induction handlers generalizing registry with
  | nil => exact .nothing registry
  | cons handler rest ih =>
      exact (registry.add_tells handler).append (ih (registry.add handler))

/-- What the loading of a source tells: its handlers, and how it ends. -/
def loading (registry : Registry) (source : Source) : List Event :=
  match source.handlers registry.settings registry.catalog with
  | .ok handlers => handlers.map .registered ++ [.loaded source handlers.length]
  | .error error => [.failed source error]

theorem load_tells (registry : Registry) (source : Source) :
    registry.Tells (registry.loading source) (registry.load source) := by
  obtain ⟨answer, hyields⟩ := source.exists_yields registry.settings registry.catalog
  rw [loading, hyields.handlers_eq]
  cases answer with
  | error error =>
      rw [load_of_yields_error hyields]
      exact registry.note_tells (.failed registry.table source error)
  | ok handlers =>
      rw [load_of_yields_ok hyields]
      refine (registry.addAll_tells handlers).append (note_tells _ ?_)
      exact .loaded (registry.addAll handlers).table source handlers.length

theorem tryLoad_tells (registry : Registry) (source : Source) :
    registry.Tells ((registry.contribution source).map .registered)
      (registry.tryLoad source).2 := by
  obtain ⟨answer, hyields⟩ := source.exists_yields registry.settings registry.catalog
  rw [contribution_of_yields hyields]
  cases answer with
  | error error =>
      rw [tryLoad_of_yields_error hyields]
      exact .nothing registry
  | ok handlers =>
      rw [tryLoad_of_yields_ok hyields]
      exact registry.addAll_tells handlers

def events (registry : Registry) : Operation → List Event
  | .loadAll => (Source.ofSettings registry.settings).flatMap registry.loading
  | .load source => registry.loading source
  | .tryLoad source => (registry.contribution source).map .registered
  | .add handler => [.registered handler]

theorem Gained.loading {before after : Registry} {handlers : List Handler}
    (hgained : before.Gained handlers after) : after.loading = before.loading := by
  funext source
  simp only [Registry.loading, hgained.settings, hgained.catalog]

theorem Gained.events {before after : Registry} {handlers : List Handler}
    (hgained : before.Gained handlers after) : after.events = before.events := by
  funext operation
  cases operation <;>
    simp only [Registry.events, hgained.settings, hgained.loading, hgained.contribution]

theorem perform_tells (registry : Registry) (operation : Operation) :
    registry.Tells (registry.events operation) (registry.perform operation) := by
  cases operation with
  | loadAll =>
      exact foldl_makes .nothing .append load_tells
        (fun before source => (before.load_gained source).loading) registry _
  | load source => exact registry.load_tells source
  | tryLoad source => exact registry.tryLoad_tells source
  | add handler => exact registry.add_tells handler

theorem performAll_tells (registry : Registry) (operations : List Operation) :
    registry.Tells (operations.flatMap registry.events) (registry.performAll operations) :=
  foldl_makes .nothing .append perform_tells
    (fun before operation => (before.perform_gained operation).events) registry operations

theorem filterMap_handler?_registered (handlers : List Handler) :
    (handlers.map Event.registered).filterMap Event.handler? = handlers := by
  rw [List.filterMap_map]
  exact List.filterMap_some

theorem filterMap_handler?_loading (registry : Registry) (source : Source) :
    (registry.loading source).filterMap Event.handler? = registry.contribution source := by
  obtain ⟨answer, hyields⟩ := source.exists_yields registry.settings registry.catalog
  rw [loading, hyields.handlers_eq, contribution_of_yields hyields]
  cases answer with
  | error error => rfl
  | ok handlers =>
      rw [List.filterMap_append, filterMap_handler?_registered]
      exact List.append_nil handlers

theorem filterMap_handler?_events (registry : Registry) (operation : Operation) :
    (registry.events operation).filterMap Event.handler? = registry.registered operation := by
  cases operation with
  | loadAll =>
      simp only [events, List.filterMap_flatMap, filterMap_handler?_loading, registered]
  | load source => exact registry.filterMap_handler?_loading source
  | tryLoad source => exact filterMap_handler?_registered (registry.contribution source)
  | add handler => rfl

/-- After any operations on an empty table the log tells, in order, every handler that
was registered, by a record of its own and a warning or not as its name was in the table
or not, and the end of every loading.  So the warnings and the size of the table add up
to the number of registrations.  Loading a source ends with one record, which counts its
handlers or gives the whole reason of its failure, and a failure leaves no other
record. -/
theorem log_accounts_for_registrations (settings : Settings) (catalog : Catalog)
    (operations : List Operation) :
    let fresh : Registry := { settings := settings, catalog := catalog }
    let final := fresh.performAll operations
    Steps .empty (operations.flatMap fresh.events) final.table
      (final.log.map LogRecord.form) ∧
    (final.log.filter fun record => record.severity = .warn).length + final.table.size =
      (operations.flatMap fresh.registered).length ∧
    (∀ (before : Registry) (source : Source),
      (∀ handlers, source.Yields before.settings before.catalog (.ok handlers) →
        ∃ forms, Steps before.table (handlers.map .registered) (before.load source).table
            forms ∧
          (before.load source).log.map LogRecord.form =
            before.log.map LogRecord.form ++ forms ++
              [⟨.info, "command source loaded",
                [("source", .text source.shown), ("count", .number handlers.length)]⟩]) ∧
      ∀ error, source.Yields before.settings before.catalog (.error error) →
        (before.load source).table = before.table ∧
        (before.load source).log.map LogRecord.form = before.log.map LogRecord.form ++
          [⟨.error, "Failed to load command source '" ++ source.shown ++ "'",
            [("source", .text source.shown), ("error", .text error.message)]⟩]) ∧
    ∀ module cause, (SourceError.load module cause).message =
      "Command source '" ++ module ++ "' failed to load: " ++
        String.intercalate ": " cause.chain := by
  intro fresh final
  obtain ⟨forms, hsteps, hlog⟩ := fresh.performAll_tells operations
  rw [List.map_nil, List.nil_append] at hlog
  have hregistered : (operations.flatMap fresh.events).filterMap Event.handler? =
      operations.flatMap fresh.registered := by
    simp only [List.filterMap_flatMap, filterMap_handler?_events]
  refine ⟨hlog ▸ hsteps, ?_, fun before source => ⟨?_, ?_⟩, fun module cause => rfl⟩
  · have hsum := hsteps.warnings_add_size
    rw [hregistered, ← hlog, warnings, List.filter_map, List.length_map] at hsum
    exact hsum.trans (Nat.zero_add _)
  · intro handlers hyields
    obtain ⟨forms, hadded, hmore⟩ := before.addAll_tells handlers
    refine ⟨forms, ?_, ?_⟩
    · rw [load_of_yields_ok hyields]
      exact hadded
    · rw [load_of_yields_ok hyields, note, List.map_append, hmore]
      rfl
  · intro error hyields
    rw [load_of_yields_error hyields]
    exact ⟨rfl, List.map_append⟩

end Registry
end CommandShell
