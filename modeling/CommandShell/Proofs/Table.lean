import Mathlib.Data.List.Nodup
import Mathlib.Tactic.Tauto
import Mathlib.Data.Finset.Card
import CommandShell.Table

/-! # Histories of insertions -/

namespace CommandShell

namespace Table

/-- A handler is the last of a list under a name. -/
def LastNamed (inserted : List Handler) (name : String) (handler : Handler) : Prop :=
  ∃ earlier later, inserted = earlier ++ handler :: later ∧ handler.name = name ∧
    ∀ other ∈ later, other.name ≠ name

@[simp] theorem insertAll_nil (table : Table) : table.insertAll [] = table := rfl

@[simp] theorem insertAll_cons (table : Table) (handler : Handler)
    (rest : List Handler) :
    table.insertAll (handler :: rest) = (table.insert handler).2.insertAll rest := rfl

theorem insertAll_append (table : Table) (earlier later : List Handler) :
    table.insertAll (earlier ++ later) =
      (table.insertAll earlier).insertAll later :=
  List.foldl_append

theorem get?_insertAll_of_not_named {table : Table} {handlers : List Handler}
    {name : String} (hnone : ∀ handler ∈ handlers, handler.name ≠ name) :
    (table.insertAll handlers).get? name = table.get? name := by
  induction handlers generalizing table with
  | nil => rfl
  | cons first rest ih =>
      have hfirst : first.name ≠ name := hnone first (by simp)
      have hrest : ∀ handler ∈ rest, handler.name ≠ name :=
        fun handler hmem => hnone handler (List.mem_cons_of_mem first hmem)
      rw [insertAll_cons, ih hrest, get?_insert, if_neg hfirst]

theorem get?_insertAll_of_lastNamed {table : Table} {handlers : List Handler}
    {name : String} {handler : Handler} (hlast : LastNamed handlers name handler) :
    (table.insertAll handlers).get? name = some handler := by
  obtain ⟨earlier, later, rfl, hname, hlater⟩ := hlast
  rw [insertAll_append, insertAll_cons, get?_insertAll_of_not_named hlater,
    get?_insert, if_pos hname]

theorem lastNamed_or_not_named (handlers : List Handler) (name : String) :
    (∃ handler, LastNamed handlers name handler) ∨
      ∀ handler ∈ handlers, handler.name ≠ name := by
  induction handlers with
  | nil => simp
  | cons first rest ih =>
      rcases ih with ⟨handler, earlier, later, rfl, hname, hlater⟩ | hrest
      · exact Or.inl ⟨handler, first :: earlier, later, rfl, hname, hlater⟩
      · by_cases hfirst : first.name = name
        · exact Or.inl ⟨first, [], rest, rfl, hfirst, hrest⟩
        · refine Or.inr ?_
          simpa [hfirst] using hrest

theorem get?_empty_insertAll_eq_some_iff (handlers : List Handler) (name : String)
    (handler : Handler) :
    (empty.insertAll handlers).get? name = some handler ↔
      LastNamed handlers name handler := by
  constructor
  · intro hfound
    rcases lastNamed_or_not_named handlers name with ⟨last, hlast⟩ | hnone
    · rw [get?_insertAll_of_lastNamed hlast, Option.some.injEq] at hfound
      exact hfound ▸ hlast
    · rw [get?_insertAll_of_not_named hnone] at hfound
      simp [empty, get?] at hfound
  · exact get?_insertAll_of_lastNamed

theorem get?_empty_insertAll_eq_none_iff (handlers : List Handler) (name : String) :
    (empty.insertAll handlers).get? name = none ↔
      ∀ handler ∈ handlers, handler.name ≠ name := by
  constructor
  · intro hnone
    rcases lastNamed_or_not_named handlers name with ⟨last, hlast⟩ | hnames
    · rw [get?_insertAll_of_lastNamed hlast] at hnone
      contradiction
    · exact hnames
  · intro hnames
    rw [get?_insertAll_of_not_named hnames]
    rfl

theorem mem_handlers_insert {table : Table} {handler other : Handler}
    (hmem : other ∈ (table.insert handler).2.handlers) :
    other = handler ∨ other ∈ table.handlers := by
  have hplace : ∀ handlers : List Handler, other ∈ (handler.place handlers).2 →
      other = handler ∨ other ∈ handlers := by
    intro handlers
    induction handlers with
    | nil => simp [Handler.place]
    | cons first rest ih =>
        by_cases hname : first.name = handler.name
        · rw [handler.place_cons_of_eq rest hname]
          simp only [List.mem_cons]
          tauto
        · rw [handler.place_cons_of_ne rest hname]
          simp only [List.mem_cons]
          tauto
  exact hplace table.handlers hmem

theorem mem_handlers_insertAll {table : Table} {handlers : List Handler}
    {other : Handler} (hmem : other ∈ (table.insertAll handlers).handlers) :
    other ∈ table.handlers ∨ other ∈ handlers := by
  induction handlers generalizing table with
  | nil => exact Or.inl hmem
  | cons first rest ih =>
      rw [insertAll_cons] at hmem
      rcases ih hmem with hinsert | hrest
      · rcases mem_handlers_insert hinsert with rfl | htable
        · exact Or.inr (by simp)
        · exact Or.inl htable
      · exact Or.inr (List.mem_cons_of_mem first hrest)

/-- Insertions append the names that are new, each where it comes first, and move
none. -/
theorem names_insertAll (table : Table) (handlers : List Handler) :
    (table.insertAll handlers).names = table.names ++
      ((handlers.map Handler.name).filter (· ∉ table.names)).eraseDups := by
  induction handlers generalizing table with
  | nil => simp
  | cons first rest ih =>
      rw [insertAll_cons, ih, names_insert, List.map_cons]
      by_cases hfirst : first.name ∈ table.names
      · simp [hfirst]
      · -- the first name is new, and those after it are new if they differ from it too
        have hnew : (rest.map Handler.name).filter (· ∉ table.names ++ [first.name]) =
            ((rest.map Handler.name).filter (· ∉ table.names)).filter
              fun name => !name == first.name := by
          rw [List.filter_filter]
          refine List.filter_congr fun name _ => ?_
          by_cases hname : name = first.name <;> simp [hname]
        rw [if_neg hfirst, hnew, List.filter_cons_of_pos (by simpa using hfirst),
          List.eraseDups_cons, List.append_assoc]
        rfl

theorem names_empty_insertAll (handlers : List Handler) :
    (empty.insertAll handlers).names = (handlers.map Handler.name).eraseDups := by
  rw [names_insertAll]
  simp [names, empty]

theorem get?_eq_some_iff {table : Table} {name : String} {handler : Handler} :
    table.get? name = some handler ↔ handler ∈ table.handlers ∧ handler.name = name := by
  constructor
  · intro hfound
    have hname : handler.name = name := by
      simpa using List.find?_some hfound
    exact ⟨List.mem_of_find?_eq_some hfound, hname⟩
  · rintro ⟨hmem, rfl⟩
    cases hfound : table.get? handler.name with
    | none =>
        have hnone := List.find?_eq_none.mp hfound handler hmem
        simp at hnone
    | some other =>
        have hother : other.name = handler.name := by
          simpa using List.find?_some hfound
        -- no two handlers of a table have one name
        exact congrArg some (List.inj_on_of_nodup_map table.nodup
          (List.mem_of_find?_eq_some hfound) hmem hother)

theorem mem_names_iff {table : Table} {name : String} :
    name ∈ table.names ↔ ∃ handler, table.get? name = some handler := by
  simp [names, get?_eq_some_iff]

/-! ## What a table shows -/

theorem contains_iff_mem_names {table : Table} {name : String} :
    table.contains name = true ↔ name ∈ table.names := by
  simp [contains, names]

theorem get?_eq_none_iff_not_mem_names {table : Table} {name : String} :
    table.get? name = none ↔ name ∉ table.names := by
  rw [mem_names_iff, ← Option.isSome_iff_exists, Option.not_isSome_iff_eq_none]

theorem isEmpty_iff_names_eq_nil {table : Table} :
    table.isEmpty = true ↔ table.names = [] := by
  simp [isEmpty, names]

theorem map_get?_names (table : Table) :
    table.names.map table.get? = table.handlers.map some := by
  rw [names, List.map_map]
  refine List.map_congr_left fun handler hmem => ?_
  exact get?_eq_some_iff.mpr ⟨hmem, rfl⟩

theorem length_names (table : Table) : table.names.length = table.size :=
  List.length_map Handler.name

theorem size_eq_card_names (table : Table) : table.size = table.names.toFinset.card := by
  rw [← length_names]
  exact (List.toFinset_card_of_nodup table.nodup).symm

theorem size_insert (table : Table) (handler : Handler) :
    (table.insert handler).2.size =
      if handler.name ∈ table.names then table.size else table.size + 1 := by
  rw [← length_names, ← length_names, names_insert]
  split
  · rfl
  · exact List.length_append

theorem mem_names_insertAll {table : Table} {handlers : List Handler} {name : String} :
    name ∈ (table.insertAll handlers).names ↔
      name ∈ table.names ∨ name ∈ handlers.map Handler.name := by
  rw [names_insertAll, List.mem_append, List.mem_eraseDups, List.mem_filter,
    decide_eq_true_eq]
  tauto

theorem size_insertAll (table : Table) (handlers : List Handler) :
    (table.insertAll handlers).size = table.size +
      ((handlers.map Handler.name).toFinset \ table.names.toFinset).card := by
  have hnames : (table.insertAll handlers).names.toFinset =
      (handlers.map Handler.name).toFinset ∪ table.names.toFinset := by
    ext name
    rw [Finset.mem_union, List.mem_toFinset, List.mem_toFinset, List.mem_toFinset,
      mem_names_insertAll, or_comm]
  rw [size_eq_card_names, hnames, size_eq_card_names, ← Finset.card_sdiff_add_card,
    Nat.add_comm]

/-- A handler whose name is not inserted again stays where it is. -/
theorem getElem?_handlers_insertAll {table : Table} {handlers : List Handler} {index : Nat}
    {handler : Handler} (hat : table.handlers[index]? = some handler)
    (hother : handler.name ∉ handlers.map Handler.name) :
    (table.insertAll handlers).handlers[index]? = some handler := by
  have hfound : (table.insertAll handlers).get? handler.name = some handler := by
    have hnone : ∀ other ∈ handlers, other.name ≠ handler.name :=
      fun other hmem hsame => hother (hsame ▸ List.mem_map_of_mem hmem)
    rw [get?_insertAll_of_not_named hnone]
    exact get?_eq_some_iff.mpr ⟨List.mem_of_getElem? hat, rfl⟩
  -- the place follows from the names, which are only added to at the end
  have hname : (table.insertAll handlers).names[index]? = some handler.name := by
    have hbefore : table.names[index]? = some handler.name := by
      rw [names, List.getElem?_map, hat]
      rfl
    rw [names_insertAll, List.getElem?_append_left (List.getElem?_eq_some_iff.mp hbefore).1]
    exact hbefore
  rw [names, List.getElem?_map] at hname
  obtain ⟨there, hthere, hsame⟩ := Option.map_eq_some_iff.mp hname
  have htwice : (table.insertAll handlers).get? handler.name = some there :=
    get?_eq_some_iff.mpr ⟨List.mem_of_getElem? hthere, hsame⟩
  rw [hthere, ← htwice, hfound]

/-- After any sequence of insertions into an empty table all observers agree with one
map, which keeps the names in the order in which they first came and under each of them
the last handler.  The next insertion answers with the handler that its name has led to
before. -/
theorem observers_agree_on_insertions (inserted : List Handler) :
    let table := empty.insertAll inserted
    table.names = (inserted.map Handler.name).eraseDups ∧ table.names.Nodup ∧
    (∀ name, table.get? name = none ↔ name ∉ inserted.map Handler.name) ∧
    (∀ name, table.contains name = true ↔ name ∈ inserted.map Handler.name) ∧
    (∀ name handler, table.get? name = some handler ↔ LastNamed inserted name handler) ∧
    table.names.map table.get? = table.handlers.map some ∧
    table.size = (inserted.map Handler.name).toFinset.card ∧
    (table.isEmpty = true ↔ inserted = []) ∧
    ∀ next : Handler, (table.insert next).1 = table.get? next.name ∧
      ∀ replaced, (table.insert next).1 = some replaced ↔
        LastNamed inserted next.name replaced := by
  intro table
  have hmem : ∀ name, name ∈ table.names ↔ name ∈ inserted.map Handler.name := by
    intro name
    rw [mem_names_insertAll]
    simp [names, empty]
  have hlast := get?_empty_insertAll_eq_some_iff inserted
  refine ⟨names_empty_insertAll inserted, table.nodup, ?_, ?_, hlast,
    table.map_get?_names, ?_, ?_, ?_⟩
  · intro name
    rw [get?_eq_none_iff_not_mem_names, hmem]
  · intro name
    rw [contains_iff_mem_names, hmem]
  · rw [size_insertAll]
    simp [size, names, empty]
  · rw [isEmpty_iff_names_eq_nil, List.eq_nil_iff_forall_not_mem]
    simp only [hmem, ← List.eq_nil_iff_forall_not_mem, List.map_eq_nil_iff]
  · intro next
    refine ⟨table.insert_fst next, fun replaced => ?_⟩
    rw [insert_fst]
    exact hlast next.name replaced

end Table

end CommandShell
