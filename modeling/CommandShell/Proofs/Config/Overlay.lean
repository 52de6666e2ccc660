import CommandShell.Config
import CommandShell.Proofs.Options
import CommandShell.Proofs.Path

/-! # Where overlays lie -/

namespace CommandShell

theorem ConfigFormat.ofExtension?_eq_some_iff {extension : String} {format : ConfigFormat} :
    ofExtension? extension = some format ↔ extension.toLower = format.extension := by
  constructor
  · intro hformat
    simpa using List.find?_some hformat
  · intro hextension
    unfold ofExtension?
    rw [hextension]
    cases format <;> rfl

theorem ConfigFormat.ofPath_eq_ok_iff {path : String} {format : ConfigFormat} :
    ofPath path = .ok format ↔
      ∃ extension, Path.extension? path = some extension ∧
        extension.toLower = format.extension := by
  unfold ofPath
  constructor
  · intro hpath
    split at hpath
    · rename_i found hfound
      rw [Except.ok.injEq] at hpath
      subst hpath
      obtain ⟨extension, hextension, hformat⟩ := Option.bind_eq_some_iff.mp hfound
      exact ⟨extension, hextension, ofExtension?_eq_some_iff.mp hformat⟩
    · contradiction
  · rintro ⟨extension, hextension, hlower⟩
    rw [hextension, Option.bind_some, ofExtension?_eq_some_iff.mpr hlower]

theorem ConfigFormat.ne_empty_of_toLower_eq {extension : String} {format : ConfigFormat}
    (hextension : extension.toLower = format.extension) : extension ≠ "" := by
  rintro rfl
  have hlower : "".toLower = "" := by decide +kernel
  rw [hlower] at hextension
  cases format with
  | toml => exact absurd hextension (by decide)
  | json => exact absurd hextension (by decide)

namespace Path

open Component

/-! ## Names that are components -/

theorem not_idle_of_length {segment : List Char} (hlength : 2 ≤ segment.length) :
    isIdle segment = false := by
  have hempty : segment ≠ [] := by
    rintro rfl
    simp at hlength
  have hhere : segment ≠ ['.'] := by
    rintro rfl
    simp at hlength
  simp [isIdle, hempty, hhere]

theorem opening_of_mem {segment : List Char} {c : Char} (hmem : c ∈ segment)
    (hc : c ≠ '.') : isIdle segment = false ∧ opening segment = .name segment := by
  have hdots : ∀ dots : List Char, (∀ d ∈ dots, d = '.') → segment ≠ dots := by
    rintro dots hdots rfl
    exact hc (hdots c hmem)
  have hidle : isIdle segment = false := by
    simp [isIdle, hdots [] (by simp), hdots ['.'] (by simp)]
  exact ⟨hidle, opening_eq_name_iff.mpr ⟨hidle, hdots ['.', '.'] (by simp), rfl⟩⟩

theorem ofSegment?_append_extension (stem : String) {extension : String}
    (hextension : extension ≠ "") (hdot : '.' ∉ extension.toList) :
    ofSegment? (stem ++ "." ++ extension).toList =
      some (.name (stem ++ "." ++ extension).toList) := by
  have hchars : extension.toList ≠ [] := by
    simpa using hextension
  obtain ⟨c, rest, hcons⟩ := List.exists_cons_of_ne_nil hchars
  have hmem : c ∈ (stem ++ "." ++ extension).toList := by
    simp [hcons]
  have hc : c ≠ '.' := by
    rintro rfl
    rw [hcons] at hdot
    simp at hdot
  obtain ⟨hidle, hopening⟩ := opening_of_mem hmem hc
  rw [ofSegment?_of_not_idle hidle, hopening]

theorem not_idle_of_mem_head?_segments {stem : String} (rest : String) (hstem : stem ≠ "")
    (hslash : '/' ∉ stem.toList) :
    ∀ segment ∈ (segments (stem ++ "." ++ rest)).head?, isIdle segment = false := by
  have hdotted : '/' ∉ (stem ++ ".").toList := by
    simpa using hslash
  intro segment hsegment
  rw [segments_append_of_slash_not_mem rest hdotted, List.head?_modifyHead] at hsegment
  obtain ⟨head, -, rfl⟩ := Option.map_eq_some_iff.mp hsegment
  apply not_idle_of_length
  have hlength : stem.toList.length ≠ 0 := by
    simpa using hstem
  simp only [String.toList_append, List.length_append]
  have hdot : ".".toList.length = 1 := rfl
  omega

namespace Divided

variable {path stem extension : String}

theorem slash_not_mem (hpath : Divided path stem extension) :
    '/' ∉ stem.toList ∧ '/' ∉ extension.toList := by
  obtain ⟨before, idle, hsplit, -, -, -⟩ := exists_split_of_fileName? hpath.fileName_eq
  have hname : '/' ∉ (stem ++ "." ++ extension).toList := by
    apply @slash_not_mem_of_mem_segments path
    rw [hsplit]
    simp
  simpa using hname

theorem exists_components (hpath : Divided path stem extension) :
    ∃ above, components path = above ++ [.name (stem ++ "." ++ extension).toList] :=
  List.getLast?_eq_some_iff.mp (fileName?_eq_some_iff.mp hpath.fileName_eq)

end Divided
end Path

namespace Config

open CommandShell.Path CommandShell.Path.Component

theorem overlayPath?_eq_some_iff {base environment overlay : String} :
    overlayPath? base environment = some overlay ↔ environment ≠ "" ∧
      ∃ stem extension, Divided base stem extension ∧
        overlay = withFileName base (stem ++ "." ++ environment ++ "." ++ extension) := by
  unfold overlayPath?
  constructor
  · intro hoverlay
    split at hoverlay
    · contradiction
    · rename_i henvironment
      obtain ⟨stem, hstem, hrest⟩ := Option.bind_eq_some_iff.mp hoverlay
      obtain ⟨extension, hextension, hsome⟩ := Option.bind_eq_some_iff.mp hrest
      obtain ⟨other, hbase⟩ := exists_divided_of_extension? hextension
      obtain rfl : other = stem := Option.some.inj (hbase.stem_eq.symm.trans hstem)
      refine ⟨by simpa using henvironment, other, extension, hbase, ?_⟩
      exact (Option.some.inj hsome).symm
  · rintro ⟨henvironment, stem, extension, hbase, rfl⟩
    rw [if_neg (by simpa using henvironment), hbase.stem_eq, hbase.extension_eq]
    rfl

theorem exists_last_slash {text : String} (htext : '/' ∈ text.toList) :
    ∃ before last, text = before ++ "/" ++ last ∧ '/' ∉ last.toList := by
  obtain ⟨after, before, hreverse, hafter⟩ :=
    List.eq_append_cons_of_mem (List.mem_reverse.mpr htext)
  refine ⟨String.ofList before.reverse, String.ofList after.reverse, ?_, ?_⟩
  · rw [← String.toList_inj, ← List.reverse_reverse text.toList, hreverse]
    simp
  · simpa using hafter

theorem getLast?_eq_slash_iff (before : String) {last : String}
    (hlast : '/' ∉ last.toList) :
    (before ++ "/" ++ last).toList.getLast? = some '/' ↔ last = "" := by
  have hchars : (before ++ "/" ++ last).toList = before.toList ++ '/' :: last.toList := by
    simp
  rw [hchars, List.getLast?_append, List.getLast?_cons, Option.some_or, Option.some.injEq]
  cases hend : last.toList.getLast? with
  | none =>
      rw [List.getLast?_eq_none_iff, String.toList_eq_nil_iff] at hend
      exact iff_of_true rfl hend
  | some c =>
      have hc : c ≠ '/' := by
        rintro rfl
        exact hlast (List.mem_of_getLast? hend)
      have hne : last ≠ "" := by
        rintro rfl
        simp at hend
      exact iff_of_false hc hne

/-- The name of an overlay puts one name into the directory of its base file, or leads
from there through other components first. -/
theorem exists_overlay_components {base stem extension : String} (environment : String)
    (hbase : Divided base stem extension) (hextension : extension ≠ "") :
    ∃ between last,
      (segments (stem ++ "." ++ environment ++ "." ++ extension)).filterMap ofSegment? =
        between ++ [.name (last ++ "." ++ extension).toList] ∧
      (between = [] ↔ '/' ∉ environment.toList) ∧
      (last = "" ↔ environment.toList.getLast? = some '/') ∧
      (between = [] → last = stem ++ "." ++ environment) := by
  obtain ⟨hstem, hslash⟩ := hbase.slash_not_mem
  have hnamed : ∀ last, [(last ++ "." ++ extension).toList].filterMap ofSegment? =
      [.name (last ++ "." ++ extension).toList] := by
    intro last
    rw [List.filterMap_cons_some
      (ofSegment?_append_extension last hextension hbase.dot_not_mem), List.filterMap_nil]
  by_cases henvironment : '/' ∈ environment.toList
  · obtain ⟨before, last, rfl, hlast⟩ := exists_last_slash henvironment
    have hsegments : segments (stem ++ "." ++ (before ++ "/" ++ last) ++ "." ++ extension) =
        segments (stem ++ "." ++ before) ++ [(last ++ "." ++ extension).toList] := by
      have hname : stem ++ "." ++ (before ++ "/" ++ last) ++ "." ++ extension =
          stem ++ "." ++ before ++ "/" ++ (last ++ "." ++ extension) := by
        simp only [String.append_assoc]
      have hend : '/' ∉ (last ++ "." ++ extension).toList := by
        simp [hlast, hslash]
      rw [hname, segments_append_slash, segments_of_slash_not_mem hend]
    have hbetween : (segments (stem ++ "." ++ before)).filterMap ofSegment? ≠ [] := by
      obtain ⟨head, tail, hcons⟩ := List.exists_cons_of_ne_nil
        (List.splitOn_ne_nil '/' (stem ++ "." ++ before).toList)
      have hhead : isIdle head = false := by
        apply not_idle_of_mem_head?_segments before hbase.stem_ne_empty hstem
        rw [segments, hcons]
        rfl
      rw [segments, hcons, List.filterMap_cons_some (ofSegment?_of_not_idle hhead)]
      exact List.cons_ne_nil _ _
    refine ⟨(segments (stem ++ "." ++ before)).filterMap ofSegment?, last, ?_, ?_, ?_, ?_⟩
    · rw [hsegments, List.filterMap_append, hnamed]
    · exact iff_of_false hbetween (fun hnone => hnone henvironment)
    · exact (getLast?_eq_slash_iff before hlast).symm
    · intro hnone
      exact (hbetween hnone).elim
  · refine ⟨[], stem ++ "." ++ environment, ?_, ?_, ?_, ?_⟩
    · rw [segments_of_slash_not_mem, hnamed, List.nil_append]
      simp [hstem, henvironment, hslash]
    · simpa using henvironment
    · have hlast : environment.toList.getLast? ≠ some '/' :=
        fun hslash => henvironment (List.mem_of_getLast? hslash)
      apply iff_of_false _ hlast
      simp
    · intro _
      rfl

/-- The overlay of a base file is always another file.  It lies beside the base file
just if the environment has no slash, and keeps the format just if it ends in none. -/
theorem overlayPath?_beside_iff {base environment : String} {format : ConfigFormat}
    (hformat : ConfigFormat.ofPath base = .ok format) (henvironment : environment ≠ "") :
    ∃ overlay, overlayPath? base environment = some overlay ∧
      Path.components overlay ≠ Path.components base ∧
      (Path.parent? overlay = Path.parent? base ↔ '/' ∉ environment.toList) ∧
      (ConfigFormat.ofPath overlay = .ok format ↔
        environment.toList.getLast? ≠ some '/') := by
  obtain ⟨extension, hextension, hlower⟩ := ConfigFormat.ofPath_eq_ok_iff.mp hformat
  obtain ⟨stem, hbase⟩ := exists_divided_of_extension? hextension
  have hnonempty := ConfigFormat.ne_empty_of_toLower_eq hlower
  obtain ⟨above, habove⟩ := hbase.exists_components
  obtain ⟨between, last, hname, hbetween, hlast, hbeside⟩ :=
    exists_overlay_components environment hbase hnonempty
  have hoverlay := overlayPath?_eq_some_iff.mpr ⟨henvironment, stem, extension, hbase, rfl⟩
  have hcomponents : components
      (withFileName base (stem ++ "." ++ environment ++ "." ++ extension)) =
        above ++ between ++ [.name (last ++ "." ++ extension).toList] := by
    rw [components_withFileName hbase.fileName_eq, habove, List.dropLast_concat, hname,
      List.append_assoc]
    have hopen := not_idle_of_mem_head?_segments (environment ++ "." ++ extension)
      hbase.stem_ne_empty hbase.slash_not_mem.1
    simpa only [String.append_assoc] using hopen
  refine ⟨_, hoverlay, ?_, ?_, ?_⟩
  · rw [hcomponents, habove]
    intro hsame
    have hboth := List.append_inj' hsame rfl
    have hnone : between = [] := List.append_right_eq_self.mp hboth.1
    have hlength := congrArg List.length
      (Component.name.inj (List.singleton_inj.mp hboth.2))
    rw [hbeside hnone] at hlength
    simp only [String.toList_append, List.length_append] at hlength
    have hdot : ".".toList.length = 1 := rfl
    omega
  · rw [parent?_of_components hcomponents, parent?_of_components habove,
      Option.some.injEq, List.append_right_eq_self, hbetween]
  · have hfileName := fileName?_eq_some_iff.mpr (List.getLast?_eq_some_iff.mpr ⟨_, hcomponents⟩)
    rw [ConfigFormat.ofPath_eq_ok_iff, extension?_of_fileName? hfileName hbase.dot_not_mem,
      ne_eq, ← hlast]
    constructor
    · rintro ⟨other, hother, -⟩ hempty
      rw [if_pos hempty] at hother
      cases hother
    · intro hkept
      exact ⟨extension, if_neg hkept, hlower⟩

theorem overlayPath?_beside_of_dotted :
    ConfigFormat.ofPath "etc/my.shell.JSON" = .ok .json ∧ "eu.test" ≠ "" ∧
    overlayPath? "etc/my.shell.JSON" "eu.test" = some "etc/my.shell.eu.test.JSON" ∧
    ∃ overlay, overlayPath? "etc/my.shell.JSON" "eu.test" = some overlay ∧
      Path.components overlay ≠ Path.components "etc/my.shell.JSON" ∧
      (Path.parent? overlay = Path.parent? "etc/my.shell.JSON" ↔
        '/' ∉ "eu.test".toList) ∧
      (ConfigFormat.ofPath overlay = .ok .json ↔ "eu.test".toList.getLast? ≠ some '/') := by
  have hformat : ConfigFormat.ofPath "etc/my.shell.JSON" = .ok .json := by
    rw [ConfigFormat.ofPath_eq_ok_iff]
    exact ⟨"JSON", by decide +kernel, by decide +kernel⟩
  have henvironment : "eu.test" ≠ "" := by decide
  refine ⟨hformat, henvironment, by decide +kernel, ?_⟩
  exact overlayPath?_beside_iff hformat henvironment

/-- An environment with a slash, as an argument can give it, puts the overlay into
another directory. -/
theorem overlay_not_always_beside :
    ¬ ∀ arguments env options base format,
      Options.parse arguments env = .ok options → options.environment ≠ "" →
      ConfigFormat.ofPath base = .ok format →
        ∃ overlay, overlayPath? base options.environment = some overlay ∧
          Path.parent? overlay = Path.parent? base ∧
          Path.components overlay ≠ Path.components base ∧
          ConfigFormat.ofPath overlay = .ok format := by
  intro hbeside
  have hparse : Options.parse ["--environment", "a/b"] (fun _ => none) =
      .ok { environment := "a/b" } := rfl
  have hformat : ConfigFormat.ofPath "./appsettings.toml" = .ok .toml := by
    rw [ConfigFormat.ofPath_eq_ok_iff]
    exact ⟨"toml", by decide +kernel, by decide +kernel⟩
  obtain ⟨overlay, hoverlay, hparent, -, -⟩ :=
    hbeside _ _ _ "./appsettings.toml" .toml hparse (by decide) hformat
  have hpath : overlayPath? "./appsettings.toml" "a/b" = some "./appsettings.a/b.toml" := by
    decide +kernel
  rw [hpath, Option.some.injEq] at hoverlay
  subst hoverlay
  revert hparent
  decide +kernel

end Config
end CommandShell
