import Mathlib.Data.List.Basic
import CommandShell.Proofs.Table
import CommandShell.Registry

/-!
# What loading leaves in the table

All steps of a registry insert handlers, and sources that cannot be had insert none.
-/

namespace CommandShell

namespace Catalog

/-- A module loads if it has a name, the catalog knows its factory and the factory
builds its handlers. -/
def Loads (catalog : Catalog) (settings : Settings) (module : String) : Prop :=
  module ≠ "" ∧ ∃ factory handlers,
    catalog.find? module = some factory ∧ factory settings = .ok handlers

/-- The handlers that a module contributes: those that its factory builds, and none
if it does not load. -/
def contribution (catalog : Catalog) (settings : Settings) (module : String) :
    List Handler :=
  if module = "" then []
  else match catalog.find? module with
    | none => []
    | some factory =>
      match factory settings with
      | .error _ => []
      | .ok handlers => handlers

theorem contribution_of_not_loads {catalog : Catalog} {settings : Settings}
    {module : String} (hfails : ¬ catalog.Loads settings module) :
    catalog.contribution settings module = [] := by
  unfold contribution
  split
  · rfl
  · rename_i hname
    cases hfactory : catalog.find? module with
    | none => rfl
    | some factory =>
        cases hbuilt : factory settings with
        | error failure => simp only [hbuilt]
        | ok handlers => exact (hfails ⟨hname, factory, handlers, hfactory, hbuilt⟩).elim

end Catalog

theorem Source.handlers_external (settings : Settings) (catalog : Catalog)
    (module : String) :
    (∃ error, Source.handlers settings catalog (.external module) = .error error ∧
        catalog.contribution settings module = []) ∨
      Source.handlers settings catalog (.external module) =
        .ok (catalog.contribution settings module) := by
  unfold Source.handlers Catalog.resolve Catalog.contribution
  by_cases hname : module = ""
  · simp [hname]
  · have hnonempty : module.isEmpty = false := by simpa using hname
    cases hfactory : catalog.find? module with
    | none => simp [hname, hnonempty, hfactory]
    | some factory =>
        cases hbuilt : factory settings <;>
          simp [hname, hnonempty, hfactory, hbuilt]

namespace Registry

/-- A registry has gained handlers: its table has them on top, and its settings and
its catalog are the same. -/
structure Gained (before : Registry) (handlers : List Handler) (after : Registry) :
    Prop where
  settings : after.settings = before.settings
  catalog : after.catalog = before.catalog
  table : after.table = before.table.insertAll handlers

theorem Gained.nothing (registry : Registry) : registry.Gained [] registry := by
  constructor <;> rfl

theorem Gained.note {before after : Registry} {handlers : List Handler}
    (hgained : before.Gained handlers after) (record : LogRecord) :
    before.Gained handlers (after.note record) :=
  ⟨hgained.settings, hgained.catalog, hgained.table⟩

theorem Gained.append {first second third : Registry} {earlier later : List Handler}
    (hfirst : first.Gained earlier second) (hsecond : second.Gained later third) :
    first.Gained (earlier ++ later) third := by
  constructor
  · rw [hsecond.settings, hfirst.settings]
  · rw [hsecond.catalog, hfirst.catalog]
  · rw [hsecond.table, hfirst.table, Table.insertAll_append]

theorem add_gained (registry : Registry) (handler : Handler) :
    registry.Gained [handler] (registry.add handler) := by
  constructor <;> rfl

theorem addAll_gained (registry : Registry) (handlers : List Handler) :
    registry.Gained handlers (registry.addAll handlers) := by
  induction handlers generalizing registry with
  | nil => exact .nothing registry
  | cons handler rest ih =>
      exact (registry.add_gained handler).append (ih (registry.add handler))

def contribution (registry : Registry) : Source → List Handler
  | .inProcess => Builtin.handlers registry.settings
  | .external module => registry.catalog.contribution registry.settings module

theorem tryLoad_gained (registry : Registry) (source : Source) :
    registry.Gained (registry.contribution source) (registry.tryLoad source).2 := by
  unfold tryLoad
  cases source with
  | inProcess => exact registry.addAll_gained _
  | external module =>
      rcases Source.handlers_external registry.settings registry.catalog module with
        ⟨error, herror, hnone⟩ | hhandlers
      · simp only [herror, contribution, hnone]
        exact .nothing registry
      · simp only [hhandlers, contribution]
        exact registry.addAll_gained _

theorem load_gained (registry : Registry) (source : Source) :
    registry.Gained (registry.contribution source) (registry.load source) := by
  have htried := registry.tryLoad_gained source
  unfold load
  rcases hanswer : registry.tryLoad source with ⟨answer, tried⟩
  rw [hanswer] at htried
  cases answer with
  | ok count => exact htried.note _
  | error error => exact htried.note _

theorem Gained.contribution {before after : Registry} {handlers : List Handler}
    (hgained : before.Gained handlers after) (source : Source) :
    after.contribution source = before.contribution source := by
  cases source <;> simp [Registry.contribution, hgained.settings, hgained.catalog]

/-- Steps one after another make together what each of them makes, if that does not
depend on what has been done before. -/
theorem foldl_makes {Step Made : Type} {Makes : Registry → List Made → Registry → Prop}
    (hnothing : ∀ registry : Registry, Makes registry [] registry)
    (happend : ∀ {first second third : Registry} {earlier later : List Made},
      Makes first earlier second → Makes second later third →
        Makes first (earlier ++ later) third)
    {perform : Registry → Step → Registry} {makes : Registry → Step → List Made}
    (hmakes : ∀ (before : Registry) (step : Step),
      Makes before (makes before step) (perform before step))
    (hsame : ∀ (before : Registry) (step : Step),
      makes (perform before step) = makes before)
    (registry : Registry) (steps : List Step) :
    Makes registry (steps.flatMap (makes registry)) (steps.foldl perform registry) := by
  induction steps generalizing registry with
  | nil => exact hnothing registry
  | cons step rest ih =>
      have hrest := ih (perform registry step)
      rw [hsame] at hrest
      exact happend (hmakes registry step) hrest

theorem foldl_load_gained (registry : Registry) (sources : List Source) :
    registry.Gained (sources.flatMap registry.contribution)
      (sources.foldl load registry) :=
  foldl_makes .nothing .append load_gained
    (fun before source => funext (before.load_gained source).contribution) registry sources

theorem table_loadAll (settings : Settings) (catalog : Catalog) :
    (loadAll { settings := settings, catalog := catalog }).table =
      Table.empty.insertAll (Builtin.handlers settings ++
        settings.commandSources.flatMap (catalog.contribution settings)) := by
  rw [loadAll, (foldl_load_gained _ _).table, Source.ofSettings, List.flatMap_cons,
    List.flatMap_map]
  rfl

theorem flatMap_contribution_skip {catalog : Catalog} {settings : Settings}
    {module : String} (before after : List String)
    (hfails : ¬ catalog.Loads settings module) :
    (before ++ module :: after).flatMap (catalog.contribution settings) =
      (before ++ after).flatMap (catalog.contribution settings) := by
  simp [Catalog.contribution_of_not_loads hfails]

theorem names_insertAll_builtin (settings : Settings) (handlers : List Handler) :
    ∃ later, (Table.empty.insertAll (Builtin.handlers settings ++ handlers)).names =
      ["cls", "exit", "hello"] ++ later := by
  rw [Table.insertAll_append, Table.names_insertAll]
  exact ⟨_, rfl⟩

/-- Loading all sources gives exactly the table of the built-in handlers and then the
contributions of the modules in the order in which the settings list them, with the
built-in names first.  So a module that does not load can be taken out of the list
without changing the table, if the other modules contribute the same under either list:
a factory is given the settings and can read the list in them. -/
theorem loadAll_inserts_contributions (settings : Settings) (catalog : Catalog) :
    let loaded (settings : Settings) : Table :=
      (loadAll { settings := settings, catalog := catalog }).table
    loaded settings =
        Table.empty.insertAll (Builtin.handlers settings ++
          settings.commandSources.flatMap (catalog.contribution settings)) ∧
      (∀ before module after, settings.commandSources = before ++ module :: after →
        ¬ catalog.Loads settings module →
          let fewer := { settings with commandSources := before ++ after }
          (∀ other ∈ before ++ after,
            catalog.contribution fewer other = catalog.contribution settings other) →
          loaded fewer = loaded settings) ∧
      ∃ later, (loaded settings).names = ["cls", "exit", "hello"] ++ later := by
  intro loaded
  have hall : loaded settings = _ := table_loadAll settings catalog
  refine ⟨hall, ?_, ?_⟩
  · intro before module after hsources hfails fewer hsame
    have hcontributions : (before ++ after).flatMap (catalog.contribution fewer) =
        (before ++ after).flatMap (catalog.contribution settings) :=
      List.flatMap_congr hsame
    rw [hall, hsources, flatMap_contribution_skip before after hfails, ← hcontributions]
    exact table_loadAll fewer catalog
  · rw [hall]
    exact names_insertAll_builtin settings _

theorem table_without_unknown_module :
    (loadAll ⟨{ commandSources := [Catalog.promptModule] }, Catalog.linked, .empty, []⟩).table =
      (loadAll ⟨{ commandSources := ["ghost", Catalog.promptModule] }, Catalog.linked,
        .empty, []⟩).table := by
  have hfails : ¬ Catalog.linked.Loads
      { commandSources := ["ghost", Catalog.promptModule] } "ghost" := by
    rintro ⟨_, factory, _, hfactory, _⟩
    simp [Catalog.find?, Catalog.linked, Catalog.promptModule] at hfactory
  apply (loadAll_inserts_contributions
    { commandSources := ["ghost", Catalog.promptModule] } Catalog.linked).2.1
    [] "ghost" [Catalog.promptModule] rfl hfails
  intro other hmem
  rw [List.nil_append, List.mem_singleton] at hmem
  rw [hmem]
  rfl

/-- One module, with a command named after the first source of the settings. -/
def echoing : Catalog :=
  ⟨[("echo", fun settings =>
    .ok (settings.commandSources.head?.toList.map fun name => ⟨name, "", fun _ => .done⟩))]⟩

theorem table_not_always_without_failing_module :
    let settings : Settings := { commandSources := ["ghost", "echo"] }
    let fewer : Settings := { settings with commandSources := ["echo"] }
    ¬ echoing.Loads settings "ghost" ∧
      (loadAll { settings := settings, catalog := echoing }).table.names =
        ["cls", "exit", "hello", "ghost"] ∧
      (loadAll { settings := fewer, catalog := echoing }).table.names =
        ["cls", "exit", "hello", "echo"] := by
  refine ⟨?_, by decide, by decide⟩
  rintro ⟨_, factory, _, hfactory, _⟩
  simp [Catalog.find?, echoing] at hfactory

/-! ## Histories of loading -/

/-- What can be done to a registry. -/
inductive Operation where
  | loadAll
  | load (source : Source)
  | tryLoad (source : Source)
  | add (handler : Handler)

def perform (registry : Registry) : Operation → Registry
  | .loadAll => registry.loadAll
  | .load source => registry.load source
  | .tryLoad source => (registry.tryLoad source).2
  | .add handler => registry.add handler

def performAll (registry : Registry) (operations : List Operation) : Registry :=
  operations.foldl perform registry

def registered (registry : Registry) : Operation → List Handler
  | .loadAll => (Source.ofSettings registry.settings).flatMap registry.contribution
  | .load source => registry.contribution source
  | .tryLoad source => registry.contribution source
  | .add handler => [handler]

theorem perform_gained (registry : Registry) (operation : Operation) :
    registry.Gained (registry.registered operation) (registry.perform operation) := by
  cases operation with
  | loadAll => exact registry.foldl_load_gained _
  | load source => exact registry.load_gained source
  | tryLoad source => exact registry.tryLoad_gained source
  | add handler => exact registry.add_gained handler

theorem Gained.registered {before after : Registry} {handlers : List Handler}
    (hgained : before.Gained handlers after) (operation : Operation) :
    after.registered operation = before.registered operation := by
  have hcontribution : after.contribution = before.contribution :=
    funext hgained.contribution
  cases operation <;> simp [Registry.registered, hgained.settings, hcontribution]

theorem performAll_gained (registry : Registry) (operations : List Operation) :
    registry.Gained (operations.flatMap registry.registered)
      (registry.performAll operations) :=
  foldl_makes .nothing .append perform_gained
    (fun before operation => funext (before.perform_gained operation).registered)
    registry operations

end Registry

/-! ## The log of a registry -/

def LogRecord.OfLoading : LogRecord → Prop
  | .addingCommand _ => True
  | .commandRegistered _ => True
  | .commandReplaced _ => True
  | .sourceLoaded _ _ => True
  | .sourceFailed _ _ => True
  | _ => False

namespace Registry

def LogsLoading (registry : Registry) : Prop :=
  ∀ record ∈ registry.log, record.OfLoading

variable {registry : Registry}

theorem LogsLoading.note (hregistry : registry.LogsLoading) {record : LogRecord}
    (hrecord : record.OfLoading) : (registry.note record).LogsLoading :=
  List.forall_mem_append.mpr ⟨hregistry, List.forall_mem_singleton.mpr hrecord⟩

theorem LogsLoading.add (hregistry : registry.LogsLoading) (handler : Handler) :
    (registry.add handler).LogsLoading := by
  have hinsertion : ∀ replaced,
      (Table.insertionRecord handler replaced).OfLoading := by
    intro replaced
    unfold Table.insertionRecord
    split <;> trivial
  refine List.forall_mem_append.mpr ⟨hregistry, ?_⟩
  exact List.forall_mem_cons.mpr ⟨trivial, List.forall_mem_singleton.mpr (hinsertion _)⟩

theorem LogsLoading.addAll (hregistry : registry.LogsLoading) (handlers : List Handler) :
    (registry.addAll handlers).LogsLoading := by
  induction handlers generalizing registry with
  | nil => exact hregistry
  | cons handler rest ih => exact ih (hregistry.add handler)

theorem LogsLoading.load (hregistry : registry.LogsLoading) (source : Source) :
    (registry.load source).LogsLoading := by
  unfold Registry.load tryLoad
  cases source.handlers registry.settings registry.catalog with
  | error error => exact hregistry.note trivial
  | ok handlers => exact (hregistry.addAll handlers).note trivial

theorem LogsLoading.foldl_load (hregistry : registry.LogsLoading)
    (sources : List Source) : (sources.foldl Registry.load registry).LogsLoading := by
  induction sources generalizing registry with
  | nil => exact hregistry
  | cons source rest ih => exact ih (hregistry.load source)

theorem logsLoading_loadAll (settings : Settings) (catalog : Catalog) :
    (loadAll { settings := settings, catalog := catalog }).LogsLoading := by
  have hfresh : Registry.LogsLoading { settings := settings, catalog := catalog } := by
    intro record hmem
    simp at hmem
  exact hfresh.foldl_load _

end Registry

end CommandShell
