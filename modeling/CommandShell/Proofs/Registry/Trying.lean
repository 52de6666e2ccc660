import CommandShell.Proofs.Registry.Loading
import CommandShell.Proofs.Table

/-! # Trying a source -/

namespace CommandShell

namespace Catalog

/-- The factory of the last entry for a module, which is the one that counts. -/
def Knows (catalog : Catalog) (module : String) (factory : Factory) : Prop :=
  ∃ earlier later, catalog.entries = earlier ++ (module, factory) :: later ∧
    ∀ entry ∈ later, entry.1 ≠ module

variable {catalog : Catalog} {module : String}

theorem find?_eq_none_iff : catalog.find? module = none ↔ module ∉ catalog.modules := by
  rw [find?, Option.map_eq_none_iff, List.find?_eq_none, modules, List.mem_map]
  simp only [List.mem_reverse, decide_eq_true_eq]
  constructor
  · rintro hnone ⟨entry, hmem, hname⟩
    exact hnone entry hmem hname
  · intro hnone entry hmem hname
    exact hnone ⟨entry, hmem, hname⟩

theorem find?_of_knows {factory : Factory} (hknows : catalog.Knows module factory) :
    catalog.find? module = some factory := by
  obtain ⟨earlier, later, hentries, hlater⟩ := hknows
  have hnone : later.reverse.find? (fun entry => entry.1 = module) = none := by
    simpa using hlater
  simp [find?, hentries, List.find?_append, hnone]

theorem knows_of_find? {factory : Factory} (hfind : catalog.find? module = some factory) :
    catalog.Knows module factory := by
  obtain ⟨⟨name, other⟩, hentry, rfl⟩ := Option.map_eq_some_iff.mp hfind
  obtain ⟨hname, before, after, hreverse, hbefore⟩ :=
    List.find?_eq_some_iff_append.mp hentry
  obtain rfl : name = module := by simpa using hname
  -- the search runs from the last entry to the first
  refine ⟨after.reverse, before.reverse, ?_, ?_⟩
  · rw [← List.reverse_reverse catalog.entries, hreverse]
    simp
  · intro entry hmem
    simpa using hbefore entry (List.mem_reverse.mp hmem)

end Catalog

namespace Source

/-- What a source comes to: its handlers, or the reason for which it is refused.  A name
is refused if it is empty, before anything is looked up under it. -/
inductive Yields (settings : Settings) (catalog : Catalog) :
    Source → Except SourceError (List Handler) → Prop
  | inProcess : Yields settings catalog .inProcess (.ok (Builtin.handlers settings))
  | unnamed : Yields settings catalog (.external "") (.error .emptyName)
  | unknown {module : String} : module ≠ "" → module ∉ catalog.modules →
      Yields settings catalog (.external module) (.error (.notFound module))
  | broken {module : String} {factory : Factory} {cause : Failure} : module ≠ "" →
      catalog.Knows module factory → factory settings = .error cause →
      Yields settings catalog (.external module) (.error (.load module cause))
  | built {module : String} {factory : Factory} {handlers : List Handler} : module ≠ "" →
      catalog.Knows module factory → factory settings = .ok handlers →
      Yields settings catalog (.external module) (.ok handlers)

variable {settings : Settings} {catalog : Catalog} {source : Source}

theorem Yields.handlers_eq {answer : Except SourceError (List Handler)}
    (hyields : source.Yields settings catalog answer) :
    source.handlers settings catalog = answer := by
  cases hyields with
  | inProcess => rfl
  | unnamed => rfl
  | unknown hname hunknown =>
      have hnone := Catalog.find?_eq_none_iff.mpr hunknown
      simp [handlers, Catalog.resolve, hname, hnone]
  | broken hname hknows hfactory =>
      have hfind := Catalog.find?_of_knows hknows
      simp [handlers, Catalog.resolve, hname, hfind, hfactory]
  | built hname hknows hfactory =>
      have hfind := Catalog.find?_of_knows hknows
      simp [handlers, Catalog.resolve, hname, hfind, hfactory]

theorem exists_yields (settings : Settings) (catalog : Catalog) (source : Source) :
    ∃ answer, source.Yields settings catalog answer := by
  cases source with
  | inProcess => exact ⟨_, .inProcess⟩
  | external module =>
      by_cases hname : module = ""
      · subst hname
        exact ⟨_, .unnamed⟩
      · cases hfind : catalog.find? module with
        | none => exact ⟨_, .unknown hname (Catalog.find?_eq_none_iff.mp hfind)⟩
        | some factory =>
            have hknows := Catalog.knows_of_find? hfind
            cases hfactory : factory settings with
            | error cause => exact ⟨_, .broken hname hknows hfactory⟩
            | ok handlers => exact ⟨_, .built hname hknows hfactory⟩

theorem yields_emptyName_iff :
    source.Yields settings catalog (.error .emptyName) ↔ source = .external "" := by
  constructor
  · rintro ⟨⟩
    rfl
  · rintro rfl
    exact .unnamed

theorem yields_notFound_iff {module : String} :
    source.Yields settings catalog (.error (.notFound module)) ↔
      source = .external module ∧ module ≠ "" ∧ module ∉ catalog.modules := by
  constructor
  · intro hyields
    cases hyields with
    | unknown hname hunknown => exact ⟨rfl, hname, hunknown⟩
  · rintro ⟨rfl, hname, hunknown⟩
    exact .unknown hname hunknown

theorem yields_load_iff {module : String} {cause : Failure} :
    source.Yields settings catalog (.error (.load module cause)) ↔
      source = .external module ∧ module ≠ "" ∧
        ∃ factory, catalog.Knows module factory ∧ factory settings = .error cause := by
  constructor
  · intro hyields
    cases hyields with
    | broken hname hknows hfactory => exact ⟨rfl, hname, _, hknows, hfactory⟩
  · rintro ⟨rfl, hname, factory, hknows, hfactory⟩
    exact .broken hname hknows hfactory

end Source

namespace Registry

variable {registry : Registry} {source : Source}

theorem tryLoad_of_yields_error {error : SourceError}
    (hyields : source.Yields registry.settings registry.catalog (.error error)) :
    registry.tryLoad source = (.error error, registry) := by
  unfold tryLoad
  rw [hyields.handlers_eq]

theorem tryLoad_of_yields_ok {handlers : List Handler}
    (hyields : source.Yields registry.settings registry.catalog (.ok handlers)) :
    registry.tryLoad source = (.ok handlers.length, registry.addAll handlers) := by
  unfold tryLoad
  rw [hyields.handlers_eq]

theorem tryLoad_eq_error_iff {error : SourceError} :
    (registry.tryLoad source).1 = .error error ↔
      source.Yields registry.settings registry.catalog (.error error) := by
  constructor
  · intro hanswer
    obtain ⟨answer, hyields⟩ := source.exists_yields registry.settings registry.catalog
    cases answer with
    | error other =>
        rw [tryLoad_of_yields_error hyields, Except.error.injEq] at hanswer
        exact hanswer ▸ hyields
    | ok handlers =>
        rw [tryLoad_of_yields_ok hyields] at hanswer
        contradiction
  · intro hyields
    rw [tryLoad_of_yields_error hyields]

theorem tryLoad_eq_ok_iff {count : Nat} :
    (registry.tryLoad source).1 = .ok count ↔
      ∃ handlers, source.Yields registry.settings registry.catalog (.ok handlers) ∧
        handlers.length = count := by
  constructor
  · intro hanswer
    obtain ⟨answer, hyields⟩ := source.exists_yields registry.settings registry.catalog
    cases answer with
    | error error =>
        rw [tryLoad_of_yields_error hyields] at hanswer
        contradiction
    | ok handlers =>
        rw [tryLoad_of_yields_ok hyields, Except.ok.injEq] at hanswer
        exact ⟨handlers, hyields, hanswer⟩
  · rintro ⟨handlers, hyields, rfl⟩
    rw [tryLoad_of_yields_ok hyields]

theorem load_of_yields_error {error : SourceError}
    (hyields : source.Yields registry.settings registry.catalog (.error error)) :
    registry.load source = registry.note (.sourceFailed source.shown error.message) := by
  unfold load
  rw [tryLoad_of_yields_error hyields]

theorem load_of_yields_ok {handlers : List Handler}
    (hyields : source.Yields registry.settings registry.catalog (.ok handlers)) :
    registry.load source =
      (registry.addAll handlers).note (.sourceLoaded source.shown handlers.length) := by
  unfold load
  rw [tryLoad_of_yields_ok hyields]

theorem contribution_of_yields {answer : Except SourceError (List Handler)}
    (hyields : source.Yields registry.settings registry.catalog answer) :
    registry.contribution source = answer.toOption.getD [] := by
  cases source with
  | inProcess =>
      cases hyields
      rfl
  | external module =>
      have hanswer := hyields.handlers_eq
      rcases Source.handlers_external registry.settings registry.catalog module with
        ⟨error, herror, hnone⟩ | hhandlers
      · rw [contribution, hnone, ← hanswer, herror]
        rfl
      · rw [contribution, ← hanswer, hhandlers]
        rfl

theorem table_addAll (registry : Registry) (handlers : List Handler) :
    (registry.addAll handlers).table = registry.table.insertAll handlers :=
  (registry.addAll_gained handlers).table

theorem table_load (registry : Registry) (source : Source) :
    (registry.load source).table = (registry.tryLoad source).2.table := by
  rw [(registry.load_gained source).table, (registry.tryLoad_gained source).table]

/-- Trying a source is all or nothing.  It is refused for one of three reasons, and then
the registry is as it was.  Otherwise the answer is the number of its handlers, the table
grows by those of their names that are new, and whatever has another name stays in its
place.  Loading the source has the same effect on the table. -/
theorem tryLoad_is_all_or_nothing (registry : Registry) (source : Source) :
    let answer := (registry.tryLoad source).1
    let after := (registry.tryLoad source).2
    (answer = .error .emptyName ↔ source = .external "") ∧
    (∀ module, answer = .error (.notFound module) ↔
      source = .external module ∧ module ≠ "" ∧ module ∉ registry.catalog.modules) ∧
    (∀ module cause, answer = .error (.load module cause) ↔
      source = .external module ∧ module ≠ "" ∧ ∃ factory,
        registry.catalog.Knows module factory ∧
          factory registry.settings = .error cause) ∧
    (∀ error, answer = .error error → after = registry) ∧
    (∀ count, answer = .ok count ↔ ∃ handlers,
      source.Yields registry.settings registry.catalog (.ok handlers) ∧
        handlers.length = count) ∧
    (∀ handlers, source.Yields registry.settings registry.catalog (.ok handlers) →
      after.table.size = registry.table.size +
        ((handlers.map Handler.name).toFinset \ registry.table.names.toFinset).card ∧
      after.table.names = registry.table.names ++
        ((handlers.map Handler.name).filter (· ∉ registry.table.names)).eraseDups ∧
      (∀ (index : Nat) (handler : Handler),
        registry.table.handlers[index]? = some handler →
          handler.name ∉ handlers.map Handler.name →
            after.table.handlers[index]? = some handler) ∧
      (∀ name, name ∉ handlers.map Handler.name →
        after.table.get? name = registry.table.get? name) ∧
      ∀ name handler, Table.LastNamed handlers name handler →
        after.table.get? name = some handler) ∧
    (registry.load source).table = after.table := by
  intro answer after
  refine ⟨tryLoad_eq_error_iff.trans Source.yields_emptyName_iff,
    fun module => tryLoad_eq_error_iff.trans Source.yields_notFound_iff,
    fun module cause => tryLoad_eq_error_iff.trans Source.yields_load_iff, ?_,
    fun count => tryLoad_eq_ok_iff, ?_, registry.table_load source⟩
  · intro error hanswer
    have htried := tryLoad_of_yields_error (tryLoad_eq_error_iff.mp hanswer)
    exact congrArg Prod.snd htried
  · intro handlers hyields
    have htable : after.table = registry.table.insertAll handlers := by
      have htried := congrArg Prod.snd (tryLoad_of_yields_ok hyields)
      exact (congrArg Registry.table htried).trans (registry.table_addAll handlers)
    rw [htable]
    refine ⟨Table.size_insertAll _ _, Table.names_insertAll _ _, ?_, ?_, ?_⟩
    · intro index handler hat hother
      exact Table.getElem?_handlers_insertAll hat hother
    · intro name hother
      refine Table.get?_insertAll_of_not_named fun handler hmem hname => ?_
      exact hother (hname ▸ List.mem_map_of_mem hmem)
    · intro name handler hlast
      exact Table.get?_insertAll_of_lastNamed hlast

example :
    let source : Factory := fun _ => .ok [Builtin.hello, Prompt.handler, Prompt.handler]
    let registry : Registry := { settings := {}, catalog := ⟨[("more", source)]⟩ }
    let tried := (registry.load .inProcess).tryLoad (.external "more")
    tried.1.toOption = some 3 ∧ tried.2.table.names = ["cls", "exit", "hello", "prompt"] := by
  decide

end Registry
end CommandShell
