import CommandShell.Proofs.Registry.Trying

/-!
# Sources in another order

What a name leads to is settled by the last source that contributes it.
-/

namespace CommandShell

namespace Table

theorem LastNamed.append_right {inserted : List Handler} {name : String} {handler : Handler}
    (hlast : LastNamed inserted name handler) (before : List Handler) :
    LastNamed (before ++ inserted) name handler := by
  obtain ⟨earlier, later, rfl, hname, hlater⟩ := hlast
  exact ⟨before ++ earlier, later, by simp, hname, hlater⟩

theorem LastNamed.append_left {inserted after : List Handler} {name : String}
    {handler : Handler} (hlast : LastNamed inserted name handler)
    (hafter : ∀ other ∈ after, other.name ≠ name) :
    LastNamed (inserted ++ after) name handler := by
  obtain ⟨earlier, later, rfl, hname, hlater⟩ := hlast
  refine ⟨earlier, later ++ after, by simp, hname, ?_⟩
  intro other hmem
  exact (List.mem_append.mp hmem).elim (hlater other) (hafter other)

variable {Origin : Type} {contribution : Origin → List Handler} {name : String}

theorem lastNamed_flatMap {origins : List Origin} {origin : Origin} {handler : Handler}
    (hlast : LastNamed (contribution origin) name handler) (hmem : origin ∈ origins)
    (halone : ∀ other ∈ origins, name ∈ (contribution other).map Handler.name →
      other = origin) :
    LastNamed (origins.flatMap contribution) name handler := by
  induction origins with
  | nil => contradiction
  | cons first rest ih =>
      have hrest : ∀ other ∈ rest, name ∈ (contribution other).map Handler.name →
          other = origin := fun other hother => halone other (List.mem_cons_of_mem first hother)
      rw [List.flatMap_cons]
      by_cases hlater : origin ∈ rest
      · exact (ih hlater hrest).append_right (contribution first)
      · obtain rfl : origin = first := (List.mem_cons.mp hmem).resolve_right hlater
        apply hlast.append_left
        intro other hother hname
        obtain ⟨source, hsource, hcontributed⟩ := List.mem_flatMap.mp hother
        have hsame := hrest source hsource (hname ▸ List.mem_map_of_mem hcontributed)
        exact hlater (hsame ▸ hsource)

theorem mem_names_flatMap {origins : List Origin} :
    name ∈ (empty.insertAll (origins.flatMap contribution)).names ↔
      ∃ origin ∈ origins, name ∈ (contribution origin).map Handler.name := by
  rw [mem_names_insertAll, List.map_flatMap, List.mem_flatMap]
  simp [names, empty]

end Table

/-! ## Sources that conflict -/

namespace Source

def Contributes (settings : Settings) (catalog : Catalog) (source : Source)
    (name : String) : Prop :=
  ∃ handlers, source.Yields settings catalog (.ok handlers) ∧
    name ∈ handlers.map Handler.name

/-- Two of the sources contribute the name. -/
def Conflict (settings : Settings) (catalog : Catalog) (sources : List Source)
    (name : String) : Prop :=
  ∃ first ∈ sources, ∃ second ∈ sources, first ≠ second ∧
    first.Contributes settings catalog name ∧ second.Contributes settings catalog name

/-- What the sources have for a name: the last handler of that name that one of them
yields, or nothing if none of them contributes the name. -/
def Offer (settings : Settings) (catalog : Catalog) (sources : List Source)
    (name : String) : Option Handler → Prop
  | some handler => ∃ source ∈ sources, ∃ handlers,
      source.Yields settings catalog (.ok handlers) ∧ Table.LastNamed handlers name handler
  | none => ∀ source ∈ sources, ¬ source.Contributes settings catalog name

end Source

namespace Registry

theorem contributes_iff_mem_contribution (registry : Registry) {source : Source}
    {name : String} :
    source.Contributes registry.settings registry.catalog name ↔
      name ∈ (registry.contribution source).map Handler.name := by
  constructor
  · rintro ⟨handlers, hyields, hname⟩
    rw [contribution_of_yields hyields]
    exact hname
  · intro hname
    obtain ⟨answer, hyields⟩ :=
      Source.exists_yields registry.settings registry.catalog source
    rw [contribution_of_yields hyields] at hname
    cases answer with
    | error error => simp [Except.toOption] at hname
    | ok handlers => exact ⟨handlers, hyields, hname⟩

section Fresh

variable {settings : Settings} {catalog : Catalog} {sources : List Source} {name : String}

theorem exists_offer (settings : Settings) (catalog : Catalog) (sources : List Source)
    (name : String) : ∃ found, Source.Offer settings catalog sources name found := by
  by_cases hnone : ∀ source ∈ sources, ¬ source.Contributes settings catalog name
  · exact ⟨none, hnone⟩
  · push Not at hnone
    obtain ⟨source, hmem, handlers, hyields, hname⟩ := hnone
    rcases Table.lastNamed_or_not_named handlers name with ⟨handler, hlast⟩ | hnamed
    · exact ⟨some handler, source, hmem, handlers, hyields, hlast⟩
    · obtain ⟨handler, hhandler, hsame⟩ := List.mem_map.mp hname
      exact (hnamed handler hhandler hsame).elim

theorem mem_names_foldl_load :
    name ∈ (sources.foldl load { settings := settings, catalog := catalog }).table.names ↔
      ∃ source ∈ sources, source.Contributes settings catalog name := by
  let fresh : Registry := { settings := settings, catalog := catalog }
  have htable : (sources.foldl load fresh).table =
      Table.empty.insertAll (sources.flatMap fresh.contribution) :=
    (fresh.foldl_load_gained sources).table
  rw [htable, Table.mem_names_flatMap]
  simp only [← contributes_iff_mem_contribution, fresh]

theorem get?_foldl_load {found : Option Handler}
    (hconflict : ¬ Source.Conflict settings catalog sources name)
    (hoffer : Source.Offer settings catalog sources name found) :
    (sources.foldl load { settings := settings, catalog := catalog }).table.get? name =
      found := by
  let fresh : Registry := { settings := settings, catalog := catalog }
  have htable : (sources.foldl load fresh).table =
      Table.empty.insertAll (sources.flatMap fresh.contribution) :=
    (fresh.foldl_load_gained sources).table
  cases found with
  | none =>
      rw [Table.get?_eq_none_iff_not_mem_names, mem_names_foldl_load]
      rintro ⟨source, hmem, hcontributes⟩
      exact hoffer source hmem hcontributes
  | some handler =>
      obtain ⟨source, hmem, handlers, hyields, hlast⟩ := hoffer
      have hown : fresh.contribution source = handlers := by
        rw [fresh.contribution_of_yields hyields]
        rfl
      rw [htable]
      apply Table.get?_insertAll_of_lastNamed
      apply Table.lastNamed_flatMap (hown ▸ hlast) hmem
      intro other hother hname
      by_contra hdifferent
      obtain ⟨earlier, later, rfl, hnamed, _⟩ := hlast
      have hsource : source.Contributes settings catalog name :=
        ⟨_, hyields, by simp [hnamed]⟩
      exact hconflict ⟨other, hother, source, hmem, hdifferent,
        fresh.contributes_iff_mem_contribution.mpr hname, hsource⟩

end Fresh

/-- What settings load with another list of modules, if the modules contribute the same
under either list, is what the first settings load in the order of that list. -/
theorem table_loadAll_listing {settings other : Settings} {catalog : Catalog}
    (happName : other.appName = settings.appName)
    (hsame : ∀ module ∈ other.commandSources,
      catalog.contribution other module = catalog.contribution settings module) :
    (loadAll { settings := other, catalog := catalog }).table =
      ((Source.ofSettings other).foldl load
        { settings := settings, catalog := catalog }).table := by
  have hbuiltin : Builtin.handlers other = Builtin.handlers settings := by
    simp [Builtin.handlers, Builtin.exit, happName]
  rw [table_loadAll, (foldl_load_gained _ _).table, List.flatMap_congr hsame, hbuiltin,
    Source.ofSettings, List.flatMap_cons, List.flatMap_map]
  rfl

/-- The order in which settings list their modules matters only over conflicts, if the
modules contribute the same under either order.  The names of the table are those that
the sources contribute, and a name that at most one of them contributes leads to the
last handler of that name in its contribution, whatever the order.  A module that is
listed twice makes no difference. -/
theorem order_matters_only_over_conflicts (settings : Settings) (catalog : Catalog)
    {first second : List String} (hperm : first.Perm second)
    (hsame : ∀ module ∈ first,
      catalog.contribution { settings with commandSources := second } module =
        catalog.contribution { settings with commandSources := first } module) :
    let listing (modules : List String) : Settings :=
      { settings with commandSources := modules }
    let loaded (modules : List String) : Table :=
      (loadAll { settings := listing modules, catalog := catalog }).table
    let sources := Source.ofSettings (listing first)
    (∀ name, name ∈ (loaded first).names ↔ name ∈ (loaded second).names) ∧
    (∀ name, name ∈ (loaded first).names ↔
      ∃ source ∈ sources, source.Contributes (listing first) catalog name) ∧
    (∀ name, ¬ Source.Conflict (listing first) catalog sources name →
      ∃ found, Source.Offer (listing first) catalog sources name found ∧
        (loaded first).get? name = found ∧ (loaded second).get? name = found) ∧
    ((∀ name, ¬ Source.Conflict (listing first) catalog sources name) →
      (loaded first).get? = (loaded second).get?) := by
  intro listing loaded sources
  let others := Source.ofSettings (listing second)
  have hsources : ∀ source, source ∈ sources ↔ source ∈ others := by
    intro source
    exact ((hperm.map Source.external).cons Source.inProcess).mem_iff
  have hsecond : loaded second =
      (others.foldl load { settings := listing first, catalog := catalog }).table := by
    have happName : (listing second).appName = (listing first).appName := rfl
    apply table_loadAll_listing happName
    intro module hmem
    exact hsame module (hperm.mem_iff.mpr hmem)
  have hnames : ∀ name, name ∈ (loaded first).names ↔
      ∃ source ∈ sources, source.Contributes (listing first) catalog name :=
    fun name => mem_names_foldl_load
  have hget : ∀ name, ¬ Source.Conflict (listing first) catalog sources name →
      ∃ found, Source.Offer (listing first) catalog sources name found ∧
        (loaded first).get? name = found ∧ (loaded second).get? name = found := by
    intro name hconflict
    obtain ⟨found, hoffer⟩ := exists_offer (listing first) catalog sources name
    refine ⟨found, hoffer, get?_foldl_load hconflict hoffer, ?_⟩
    rw [hsecond]
    apply get?_foldl_load
    · simpa only [Source.Conflict, hsources] using hconflict
    · cases found <;> simpa only [Source.Offer, hsources] using hoffer
  refine ⟨?_, hnames, hget, ?_⟩
  · intro name
    rw [hnames, hsecond, mem_names_foldl_load]
    simp only [hsources]
  · intro hnone
    funext name
    obtain ⟨found, _, hfirst, hfound⟩ := hget name (hnone name)
    rw [hfirst, hfound]

def greetings : Catalog :=
  ⟨[("greetings", fun _ => .ok [⟨"wave", "Waves.", fun _ => .done⟩,
      ⟨"hello", "Greets.", fun _ => .done⟩]),
    ("override", fun _ => .ok [⟨"hello", "Overrides.", fun _ => .done⟩])]⟩

theorem wave_in_either_order :
    let listing (modules : List String) : Settings := { commandSources := modules }
    let loaded (modules : List String) : Table :=
      (loadAll { settings := listing modules, catalog := greetings }).table
    let first := ["greetings", "ghost", "override"]
    let second := ["override", "greetings", "ghost"]
    let wave : Handler := ⟨"wave", "Waves.", fun _ => .done⟩
    first.Perm second ∧
    ¬ Source.Conflict (listing first) greetings (Source.ofSettings (listing first)) "wave" ∧
    (loaded first).get? "wave" = some wave ∧ (loaded second).get? "wave" = some wave := by
  intro listing loaded first second wave
  have hperm : first.Perm second := by decide
  have honly : ∀ source ∈ Source.ofSettings (listing first),
      source.Contributes (listing first) greetings "wave" →
        source = .external "greetings" := by
    intro source hmem hcontributes
    have hname := (contributes_iff_mem_contribution
      { settings := listing first, catalog := greetings }).mp hcontributes
    simp only [Source.ofSettings, listing, first, List.map_cons, List.map_nil,
      List.mem_cons, List.not_mem_nil, or_false] at hmem
    rcases hmem with rfl | rfl | rfl | rfl
    · exact absurd hname (by decide)
    · rfl
    · exact absurd hname (by decide)
    · exact absurd hname (by decide)
  have hconflict : ¬ Source.Conflict (listing first) greetings
      (Source.ofSettings (listing first)) "wave" := by
    rintro ⟨one, hone, other, hother, hdifferent, hcontributes, hcontributed⟩
    exact hdifferent ((honly one hone hcontributes).trans
      (honly other hother hcontributed).symm)
  have hsame : ∀ module ∈ first, greetings.contribution (listing second) module =
      greetings.contribution (listing first) module := by
    intro module hmem
    simp only [first, List.mem_cons, List.not_mem_nil, or_false] at hmem
    rcases hmem with rfl | rfl | rfl <;> rfl
  obtain ⟨found, _, hfirst, hsecond⟩ :=
    (order_matters_only_over_conflicts {} greetings hperm hsame).2.2.1 "wave" hconflict
  have hwave : (loaded first).get? "wave" = some wave := rfl
  exact ⟨hperm, hconflict, hwave, hsecond.trans (hfirst.symm.trans hwave)⟩

example :
    let table (modules : List String) : Table :=
      (loadAll { settings := { commandSources := modules }, catalog := greetings }).table
    (table ["greetings", "override"]).names = (table ["override", "greetings"]).names ∧
    ((table ["greetings", "override"]).get? "hello").map Handler.description ≠
      ((table ["override", "greetings"]).get? "hello").map Handler.description := by
  decide

theorem order_not_always_only_over_conflicts :
    let loaded (modules : List String) : Table :=
      (loadAll { settings := { commandSources := modules }, catalog := echoing }).table
    ["echo", "ghost"].Perm ["ghost", "echo"] ∧ ["echo", "ghost"].Nodup ∧
      (loaded ["echo", "ghost"]).names = ["cls", "exit", "hello", "echo"] ∧
      (loaded ["ghost", "echo"]).names = ["cls", "exit", "hello", "ghost"] := by
  decide

end Registry
end CommandShell
