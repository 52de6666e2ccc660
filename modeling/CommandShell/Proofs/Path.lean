import CommandShell.Path

/-! # Components and file names -/

namespace CommandShell

namespace Path

theorem slash_not_mem_of_mem_segments {path : String} {segment : List Char}
    (hsegment : segment ∈ segments path) : '/' ∉ segment := by
  unfold segments at hsegment
  generalize path.toList = chars at hsegment
  induction chars generalizing segment with
  | nil =>
      rw [List.splitOn_nil, List.mem_singleton] at hsegment
      simp [hsegment]
  | cons c rest ih =>
      rw [List.splitOn_cons_eq_if_modifyHead] at hsegment
      obtain ⟨head, tail, hrest⟩ := List.exists_cons_of_ne_nil (List.splitOn_ne_nil '/' rest)
      rw [hrest] at hsegment ih
      have htail : ∀ other ∈ tail, '/' ∉ other :=
        fun other hmem => ih (List.mem_cons_of_mem head hmem)
      split at hsegment
      · rcases List.mem_cons.mp hsegment with rfl | hmem
        · simp
        · exact ih hmem
      · rename_i hc
        rcases List.mem_cons.mp hsegment with rfl | hmem
        · have hslash : c ≠ '/' := by
            simpa using hc
          simp [ih List.mem_cons_self, Ne.symm hslash]
        · exact htail segment hmem

theorem segments_append_of_slash_not_mem {first : String} (second : String)
    (hfirst : '/' ∉ first.toList) :
    segments (first ++ second) = (segments second).modifyHead (first.toList ++ ·) := by
  unfold segments
  rw [String.toList_append]
  generalize first.toList = chars at hfirst
  induction chars with
  | nil => exact (congrFun List.modifyHead_id _).symm
  | cons c rest ih =>
      rw [List.mem_cons, not_or] at hfirst
      have hc : (c == '/') = false := by
        simpa using Ne.symm hfirst.1
      rw [List.cons_append, List.splitOn_cons_eq_if_modifyHead, hc, ih hfirst.2]
      simp [Function.comp_def]

theorem segments_append_slash (first second : String) :
    segments (first ++ "/" ++ second) = segments first ++ segments second := by
  unfold segments
  have hchars : (first ++ "/" ++ second).toList =
      first.toList ++ '/' :: second.toList := by
    simp
  rw [hchars, List.splitOn_append_cons_self]

theorem segments_of_slash_not_mem {path : String} (hpath : '/' ∉ path.toList) :
    segments path = [path.toList] :=
  List.splitOn_eq_singleton hpath

theorem segments_intercalate {parts : List (List Char)} (hne : parts ≠ [])
    (hparts : ∀ part ∈ parts, '/' ∉ part) :
    segments (String.intercalate "/" (parts.map String.ofList)) = parts := by
  have hchars : (String.intercalate "/" (parts.map String.ofList)).toList =
      List.intercalate ['/'] parts := by
    rw [String.toList_intercalate, List.map_map]
    simp [Function.comp_def]
  unfold segments
  rw [hchars, List.splitOn_intercalate '/' hparts hne]

open Component

theorem ofSegment?_of_idle {segment : List Char} (hidle : isIdle segment = true) :
    ofSegment? segment = none := by
  rw [ofSegment?, if_pos hidle]

theorem ofSegment?_of_not_idle {segment : List Char} (hsegment : isIdle segment = false) :
    ofSegment? segment = some (opening segment) := by
  rw [ofSegment?, if_neg (by simp [hsegment])]

theorem filterMap_ofSegment?_of_idle {idle : List (List Char)}
    (hidle : ∀ segment ∈ idle, isIdle segment = true) :
    idle.filterMap ofSegment? = [] := by
  rw [List.filterMap_eq_nil_iff]
  intro segment hmem
  exact ofSegment?_of_idle (hidle segment hmem)

theorem ofSegments_append {first : List (List Char)} (second : List (List Char))
    (hfirst : first ≠ []) :
    ofSegments (first ++ second) = ofSegments first ++ second.filterMap ofSegment? := by
  cases first with
  | nil => exact (hfirst rfl).elim
  | cons segment rest =>
      rw [List.cons_append, ofSegments, ofSegments, List.filterMap_append, List.cons_append]

theorem ofSegments_eq_filterMap {given : List (List Char)}
    (hopen : ∀ segment ∈ given.head?, isIdle segment = false) :
    ofSegments given = given.filterMap ofSegment? := by
  cases given with
  | nil => rfl
  | cons first rest =>
      have hfirst : isIdle first = false := hopen first rfl
      rw [ofSegments, List.filterMap_cons_some (ofSegment?_of_not_idle hfirst)]

theorem opening_eq_name_iff {segment characters : List Char} :
    opening segment = .name characters ↔
      isIdle segment = false ∧ segment ≠ ['.', '.'] ∧ segment = characters := by
  unfold opening isIdle
  by_cases hempty : segment = []
  · simp [hempty]
  · by_cases hhere : segment = ['.']
    · simp [hhere]
    · by_cases hup : segment = ['.', '.']
      · simp [hup]
      · simp [hempty, hhere, hup]

/-! ## File names -/

theorem idle_or_exists_last (given : List (List Char)) :
    (∀ segment ∈ given, isIdle segment = true) ∨
      ∃ before last idle, given = before ++ last :: idle ∧ isIdle last = false ∧
        ∀ segment ∈ idle, isIdle segment = true := by
  induction given with
  | nil => exact Or.inl (by simp)
  | cons first rest ih =>
      rcases ih with hidle | ⟨before, last, idle, rfl, hlast, hidle⟩
      · cases hfirst : isIdle first with
        | true => exact Or.inl (List.forall_mem_cons.mpr ⟨hfirst, hidle⟩)
        | false => exact Or.inr ⟨[], first, rest, rfl, hfirst, hidle⟩
      · exact Or.inr ⟨first :: before, last, idle, rfl, hlast, hidle⟩

theorem lastComponent_append_idle {idle : List (List Char)} (earlier : List (List Char))
    (hidle : ∀ segment ∈ idle, isIdle segment = true) :
    lastComponent (idle ++ earlier) = lastComponent earlier := by
  induction idle with
  | nil => rfl
  | cons segment rest ih =>
      rw [List.forall_mem_cons] at hidle
      rw [List.cons_append, lastComponent, if_pos hidle.1]
      exact ih hidle.2

theorem lastComponent_of_idle {idle : List (List Char)}
    (hidle : ∀ segment ∈ idle, isIdle segment = true) :
    lastComponent idle.reverse = none := by
  have hreverse : ∀ segment ∈ idle.reverse, isIdle segment = true := by
    simpa using hidle
  have hnone := lastComponent_append_idle [] hreverse
  rw [List.append_nil] at hnone
  rw [hnone, lastComponent]

theorem lastComponent_of_last {before idle : List (List Char)} {last : List Char}
    (hlast : isIdle last = false) (hidle : ∀ segment ∈ idle, isIdle segment = true) :
    lastComponent (before ++ last :: idle).reverse = some (before.reverse, last) := by
  have hreverse : ∀ segment ∈ idle.reverse, isIdle segment = true := by
    simpa using hidle
  rw [List.reverse_append, List.reverse_cons, List.append_assoc,
    lastComponent_append_idle _ hreverse, List.singleton_append, lastComponent,
    if_neg (by simp [hlast])]

theorem exists_split_of_fileName? {path name : String}
    (hname : fileName? path = some name) :
    ∃ before idle, segments path = before ++ name.toList :: idle ∧
      isIdle name.toList = false ∧ name.toList ≠ ['.', '.'] ∧
      ∀ segment ∈ idle, isIdle segment = true := by
  unfold fileName? at hname
  rcases idle_or_exists_last (segments path) with hidle | ⟨before, last, idle, hsplit,
    hlast, hidle⟩
  · rw [lastComponent_of_idle hidle] at hname
    contradiction
  · rw [hsplit, lastComponent_of_last hlast hidle] at hname
    simp only at hname
    split at hname
    · contradiction
    · rename_i hup
      obtain rfl : String.ofList last = name := Option.some.inj hname
      rw [String.toList_ofList]
      exact ⟨before, idle, hsplit, hlast, hup, hidle⟩

theorem ofSegments_last {before idle : List (List Char)} {last : List Char}
    (hlast : isIdle last = false) (hidle : ∀ segment ∈ idle, isIdle segment = true) :
    ofSegments (before ++ last :: idle) = ofSegments before ++ [opening last] := by
  have hend : (last :: idle).filterMap ofSegment? = [opening last] := by
    rw [List.filterMap_cons_some (ofSegment?_of_not_idle hlast),
      filterMap_ofSegment?_of_idle hidle]
  cases before with
  | nil =>
      rw [List.nil_append, ofSegments_eq_filterMap, hend]
      · rfl
      · simpa using hlast
  | cons first rest =>
      rw [ofSegments_append _ (List.cons_ne_nil first rest), hend]

theorem getLast?_ofSegments_ne_name {idle : List (List Char)} (characters : List Char)
    (hidle : ∀ segment ∈ idle, isIdle segment = true) :
    (ofSegments idle).getLast? ≠ some (.name characters) := by
  cases idle with
  | nil => simp [ofSegments]
  | cons first rest =>
      rw [List.forall_mem_cons] at hidle
      rw [ofSegments, filterMap_ofSegment?_of_idle hidle.2, List.getLast?_singleton,
        ne_eq, Option.some.injEq, opening_eq_name_iff, hidle.1]
      simp

theorem ne_empty_of_segments {path : String} {before idle : List (List Char)}
    {last : List Char} (hsplit : segments path = before ++ last :: idle)
    (hlast : isIdle last = false) : path ≠ "" := by
  rintro rfl
  have hsegments : segments "" = [[]] := rfl
  rw [hsegments, List.singleton_eq_append_iff] at hsplit
  rcases hsplit with ⟨rfl, hcons⟩ | ⟨_, hcons⟩
  · rw [List.cons.injEq] at hcons
    rw [hcons.1] at hlast
    contradiction
  · contradiction

theorem fileName?_eq_some_iff {path name : String} :
    fileName? path = some name ↔
      (components path).getLast? = some (.name name.toList) := by
  constructor
  · intro hname
    obtain ⟨before, idle, hsplit, hlast, hup, hidle⟩ := exists_split_of_fileName? hname
    have hopening : opening name.toList = .name name.toList :=
      opening_eq_name_iff.mpr ⟨hlast, hup, rfl⟩
    rw [components, if_neg (ne_empty_of_segments hsplit hlast), hsplit,
      ofSegments_last hlast hidle, List.getLast?_concat, hopening]
  · intro hcomponents
    unfold components at hcomponents
    split at hcomponents
    · contradiction
    · rcases idle_or_exists_last (segments path) with hidle | ⟨before, last, idle, hsplit,
        hlast, hidle⟩
      · exact (getLast?_ofSegments_ne_name _ hidle hcomponents).elim
      · rw [hsplit, ofSegments_last hlast hidle, List.getLast?_concat, Option.some.injEq,
          opening_eq_name_iff] at hcomponents
        obtain ⟨_, hup, rfl⟩ := hcomponents
        unfold fileName?
        rw [hsplit, lastComponent_of_last hlast hidle]
        simp [hup]

theorem trimIdle_subset (given : List (List Char)) : trimIdle given ⊆ given := by
  fun_induction trimIdle given with
  | case1 => simp
  | case2 first => simp
  | case3 segment earlier hne hidle ih => exact List.subset_cons_of_subset segment ih
  | case4 segment earlier hne hidle => simp

theorem trimIdle_ne_nil {given : List (List Char)} (hgiven : given ≠ []) :
    trimIdle given ≠ [] := by
  fun_induction trimIdle given with
  | case1 => exact hgiven
  | case2 first => simp
  | case3 segment earlier hne hidle ih => exact ih hne
  | case4 segment earlier hne hidle => simp

theorem ofSegments_trimIdle (given : List (List Char)) :
    ofSegments (trimIdle given).reverse = ofSegments given.reverse := by
  fun_induction trimIdle given with
  | case1 => rfl
  | case2 first => rfl
  | case3 segment earlier hne hidle ih =>
      have hearlier : earlier.reverse ≠ [] := by
        simpa using hne
      rw [ih, List.reverse_cons, ofSegments_append _ hearlier,
        List.filterMap_cons_none (ofSegment?_of_idle hidle), List.filterMap_nil,
        List.append_nil]
  | case4 segment earlier hne hidle => rfl

theorem segments_trimmed_append {path : String} {before : List (List Char)} (new : String)
    (hbefore : before ≠ []) (hsubset : before ⊆ segments path) :
    segments (String.intercalate "/" ((trimIdle before.reverse).reverse.map String.ofList) ++
        "/" ++ new) =
      (trimIdle before.reverse).reverse ++ segments new := by
  have hparts : ∀ part ∈ (trimIdle before.reverse).reverse, '/' ∉ part := by
    intro part hmem
    have hpart := trimIdle_subset _ (List.mem_reverse.mp hmem)
    exact slash_not_mem_of_mem_segments (hsubset (List.mem_reverse.mp hpart))
  have hne : (trimIdle before.reverse).reverse ≠ [] := by
    simpa using trimIdle_ne_nil (by simpa using hbefore)
  rw [segments_append_slash, segments_intercalate hne hparts]

/-- With another file name, the components of this name stand in the place of the last
component. -/
theorem components_withFileName {path old new : String} (hold : fileName? path = some old)
    (hnew : ∀ segment ∈ (segments new).head?, isIdle segment = false) :
    components (withFileName path new) =
      (components path).dropLast ++ (segments new).filterMap ofSegment? := by
  obtain ⟨before, idle, hsplit, hlast, hup, hidle⟩ := exists_split_of_fileName? hold
  have hpath : components path = ofSegments before ++ [opening old.toList] := by
    rw [components, if_neg (ne_empty_of_segments hsplit hlast), hsplit,
      ofSegments_last hlast hidle]
  rw [hpath, List.dropLast_concat]
  unfold withFileName
  rw [hsplit, lastComponent_of_last hlast hidle]
  simp only
  rw [if_neg hup]
  by_cases hbefore : before = []
  · have hne : new ≠ "" := by
      rintro rfl
      exact absurd (hnew [] rfl) (by decide)
    rw [if_pos (by simpa using hbefore), hbefore, components, if_neg hne,
      ofSegments_eq_filterMap hnew]
    rfl
  · have hsubset : before ⊆ segments path := by
      rw [hsplit]
      exact List.subset_append_left before _
    have hsegments := segments_trimmed_append new hbefore hsubset
    have hne : (trimIdle before.reverse).reverse ≠ [] := by
      simpa using trimIdle_ne_nil (by simpa using hbefore)
    rw [if_neg (by simpa using hbefore), components, if_neg, hsegments,
      ofSegments_append _ hne, ofSegments_trimIdle, List.reverse_reverse]
    intro hempty
    have hlength := congrArg String.length hempty
    simp at hlength

example : components (withFileName "./etc//shell.toml" "shell.a/b.toml") =
    [.here, .name "etc".toList, .name "shell.a".toList, .name "b.toml".toList] := by
  decide +kernel

theorem parent?_of_components {path : String} {above : List Component}
    {characters : List Char} (hpath : components path = above ++ [.name characters]) :
    parent? path = some above := by
  rw [parent?, hpath, List.getLast?_concat]
  simp

end Path

/-! ## Stems and extensions -/

namespace Path

theorem ne_dot_of_mem_reverse {chars : List Char} (hchars : '.' ∉ chars) :
    ∀ c ∈ chars.reverse, decide (c ≠ '.') = true := by
  intro c hmem
  rw [decide_eq_true_iff]
  rintro rfl
  exact hchars (List.mem_reverse.mp hmem)

theorem splitExtension_of_dot_not_mem {name : List Char} (hname : '.' ∉ name) :
    splitExtension name = (name, none) := by
  have hdrop : name.reverse.dropWhile (· ≠ '.') = [] := by
    have happend := @List.dropWhile_append_of_pos _ _ _ [] (ne_dot_of_mem_reverse hname)
    rw [List.append_nil] at happend
    exact happend
  unfold splitExtension
  simp only
  rw [hdrop]

theorem splitExtension_append {stem extension : List Char} (hextension : '.' ∉ extension) :
    splitExtension (stem ++ '.' :: extension) =
      if stem = [] then (stem ++ '.' :: extension, none) else (stem, some extension) := by
  have hkeep := ne_dot_of_mem_reverse hextension
  have hreverse : (stem ++ '.' :: extension).reverse =
      extension.reverse ++ '.' :: stem.reverse := by
    simp
  unfold splitExtension
  simp only
  rw [hreverse, List.dropWhile_append_of_pos hkeep, List.takeWhile_append_of_pos hkeep]
  cases hstem : stem.reverse with
  | nil =>
      rw [List.reverse_eq_nil_iff] at hstem
      simp [hstem]
  | cons last rest =>
      have hne : stem ≠ [] := by
        rintro rfl
        simp at hstem
      have hback : stem = (last :: rest).reverse := by
        rw [← hstem, List.reverse_reverse]
      rw [if_neg hne, hback]
      simp

theorem eq_append_of_splitExtension {name stem extension : List Char}
    (hname : splitExtension name = (stem, some extension)) :
    name = stem ++ '.' :: extension ∧ stem ≠ [] ∧ '.' ∉ extension := by
  by_cases hdot : '.' ∈ name
  · -- the last dot of the name is the first one from its end
    obtain ⟨after, before, hreverse, hafter⟩ :=
      List.eq_append_cons_of_mem (List.mem_reverse.mpr hdot)
    have hsplit : name = before.reverse ++ '.' :: after.reverse := by
      rw [← List.reverse_reverse name, hreverse]
      simp
    have hnodot : '.' ∉ after.reverse := by
      simpa using hafter
    rw [hsplit, splitExtension_append hnodot] at hname
    split at hname
    · simp at hname
    · rename_i hne
      rw [Prod.mk.injEq, Option.some.injEq] at hname
      obtain ⟨rfl, rfl⟩ := hname
      exact ⟨hsplit, hne, hnodot⟩
  · rw [splitExtension_of_dot_not_mem hdot] at hname
    simp at hname

theorem extension?_of_fileName? {path stem extension : String}
    (hname : fileName? path = some (stem ++ "." ++ extension))
    (hextension : '.' ∉ extension.toList) :
    extension? path = if stem = "" then none else some extension := by
  have hchars : (stem ++ "." ++ extension).toList =
      stem.toList ++ '.' :: extension.toList := by
    simp
  rw [extension?, hname, Option.bind_some, hchars, splitExtension_append hextension]
  by_cases hstem : stem = ""
  · simp [hstem]
  · have hne : stem.toList ≠ [] := by
      simpa using hstem
    rw [if_neg hne, if_neg hstem, Option.map_some, String.ofList_toList]

/-- A path whose file name is a stem, a dot and an extension. -/
structure Divided (path stem extension : String) : Prop where
  fileName_eq : fileName? path = some (stem ++ "." ++ extension)
  stem_eq : stem? path = some stem
  stem_ne_empty : stem ≠ ""
  dot_not_mem : '.' ∉ extension.toList

theorem Divided.extension_eq {path stem extension : String}
    (hpath : Divided path stem extension) : extension? path = some extension := by
  rw [extension?_of_fileName? hpath.fileName_eq hpath.dot_not_mem,
    if_neg hpath.stem_ne_empty]

theorem exists_divided_of_extension? {path extension : String}
    (hpath : extension? path = some extension) : ∃ stem, Divided path stem extension := by
  obtain ⟨name, hname, hsplit⟩ := Option.bind_eq_some_iff.mp hpath
  cases hparts : splitExtension name.toList with
  | mk stem rest =>
      rw [hparts] at hsplit
      obtain ⟨chars, hrest, rfl⟩ := Option.map_eq_some_iff.mp hsplit
      obtain rfl : rest = some chars := hrest
      obtain ⟨happend, hstem, hdot⟩ := eq_append_of_splitExtension hparts
      refine ⟨String.ofList stem, ?_, ?_, ?_, ?_⟩
      · rw [hname, Option.some.injEq, ← String.toList_inj, happend]
        simp
      · rw [stem?, hname, Option.map_some, hparts]
      · simpa using hstem
      · rw [String.toList_ofList]
        exact hdot

end Path

end CommandShell
