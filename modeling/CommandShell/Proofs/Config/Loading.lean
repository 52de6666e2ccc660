import CommandShell.Program
import CommandShell.Proofs.Config.Overlay
import CommandShell.Proofs.Config.Sections
import CommandShell.Proofs.Console.LineFeed

/-!
# What loading a configuration comes to

Each step of loading has rules of its own, which settle every case.
-/

namespace CommandShell

def ConfigError.Names (error : ConfigError) (path : String) : Prop :=
  ∃ before after, error.chain.head? = some (before ++ "'" ++ path ++ "'" ++ after)

namespace Config

def Named (path : String) (format : ConfigFormat) : Prop :=
  ∃ extension, Path.extension? path = some extension ∧
    extension.toLower = format.extension

/-- A path leads to a file that can be read and is the text in UTF-8. -/
def Holds (files : Files) (path content : String) : Prop :=
  files path = .file (LineFeed.encoded content)

/-- What reading a file as a configuration comes to. -/
inductive Reads (files : Files) (path : String) : Except ConfigError Section → Prop
  | unsupported : (∀ format, ¬ Named path format) →
      Reads files path (.error (.unsupported path))
  | unreadable {format : ConfigFormat} :
      Named path format → (∀ content, ¬ Holds files path content) →
      Reads files path (.error (.unreadable path))
  | invalid {format : ConfigFormat} {content : String} :
      Named path format → Holds files path content →
      (∀ found, parse format content ≠ .ok found) →
      Reads files path (.error (.invalidFile path format))
  | read {format : ConfigFormat} {content : String} {found : Section} :
      Named path format → Holds files path content → parse format content = .ok found →
      Reads files path (.ok found)

variable {files : Files} {path : String}

theorem content?_eq_some_iff {content : String} :
    content? files path = some content ↔ Holds files path content := by
  unfold content? Holds
  cases files path with
  | absent => simp
  | directory => simp
  | unreadable => simp
  | file bytes =>
      rw [Node.file.injEq, eq_comm (a := bytes)]
      exact LineFeed.decode?_eq_some_iff

theorem Named.ofPath_eq {format : ConfigFormat} (hnamed : Named path format) :
    ConfigFormat.ofPath path = .ok format :=
  ConfigFormat.ofPath_eq_ok_iff.mpr hnamed

theorem ofPath_eq_unsupported (hnamed : ∀ format, ¬ Named path format) :
    ConfigFormat.ofPath path = .error (.unsupported path) := by
  cases hpath : ConfigFormat.ofPath path with
  | ok format => exact (hnamed format (ConfigFormat.ofPath_eq_ok_iff.mp hpath)).elim
  | error error =>
      unfold ConfigFormat.ofPath at hpath
      split at hpath
      · contradiction
      · exact hpath.symm

theorem Reads.ofFile_eq {result : Except ConfigError Section}
    (hreads : Reads files path result) : ofFile files path = result := by
  unfold ofFile
  cases hreads with
  | unsupported hnamed => rw [ofPath_eq_unsupported hnamed]
  | unreadable hnamed hcontent =>
      have hnone : content? files path = none := by
        rw [Option.eq_none_iff_forall_ne_some]
        intro content hsome
        exact hcontent content (content?_eq_some_iff.mp hsome)
      rw [hnamed.ofPath_eq]
      simp only [hnone]
  | @invalid format content hnamed hcontent hparse =>
      rw [hnamed.ofPath_eq]
      simp only [content?_eq_some_iff.mpr hcontent]
      cases hresult : parse format content with
      | ok found => exact (hparse found hresult).elim
      | error error => rfl
  | read hnamed hcontent hparse =>
      rw [hnamed.ofPath_eq]
      simp only [content?_eq_some_iff.mpr hcontent, hparse]

theorem exists_reads (files : Files) (path : String) :
    ∃ result, Reads files path result := by
  by_cases hnamed : ∃ format, Named path format
  · obtain ⟨format, hformat⟩ := hnamed
    by_cases hcontent : ∃ content, Holds files path content
    · obtain ⟨content, hholds⟩ := hcontent
      cases hparse : parse format content with
      | ok found => exact ⟨_, .read hformat hholds hparse⟩
      | error error => exact ⟨_, .invalid hformat hholds (by simp [hparse])⟩
    · exact ⟨_, .unreadable hformat (not_exists.mp hcontent)⟩
  · exact ⟨_, .unsupported (not_exists.mp hnamed)⟩

/-! ## The base file -/

/-- The choice of the base file: the path that is asked for if a regular file is there,
else the first default that is one, if any is. -/
inductive Chooses (files : Files) (directory : String) :
    Option String → Except ConfigError (Option String) → Prop
  | asked {path : String} : (files (Path.join directory path)).isFile = true →
      Chooses files directory (some path) (.ok (some (Path.join directory path)))
  | missing {path : String} : (files (Path.join directory path)).isFile = false →
      Chooses files directory (some path) (.error (.notFound (Path.join directory path)))
  | toml : (files (Path.join directory "appsettings.toml")).isFile = true →
      Chooses files directory none (.ok (some (Path.join directory "appsettings.toml")))
  | json : (files (Path.join directory "appsettings.toml")).isFile = false →
      (files (Path.join directory "appsettings.json")).isFile = true →
      Chooses files directory none (.ok (some (Path.join directory "appsettings.json")))
  | default : (files (Path.join directory "appsettings.toml")).isFile = false →
      (files (Path.join directory "appsettings.json")).isFile = false →
      Chooses files directory none (.ok none)

variable {directory : String} {explicit : Option String}

theorem defaultPaths_eq (directory : String) :
    defaultPaths directory = [Path.join directory "appsettings.toml",
      Path.join directory "appsettings.json"] := rfl

theorem Chooses.basePath_eq {chosen : Except ConfigError (Option String)}
    (hchooses : Chooses files directory explicit chosen) :
    basePath files directory explicit = chosen := by
  cases hchooses with
  | asked hfile => exact if_pos hfile
  | missing hfile => exact if_neg (by simp [hfile])
  | toml hfile => simp [basePath, defaultPaths_eq, hfile]
  | json htoml hfile => simp [basePath, defaultPaths_eq, htoml, hfile]
  | default htoml hjson => simp [basePath, defaultPaths_eq, htoml, hjson]

theorem exists_chooses (files : Files) (directory : String) (explicit : Option String) :
    ∃ chosen, Chooses files directory explicit chosen := by
  cases explicit with
  | some path =>
      cases hfile : (files (Path.join directory path)).isFile with
      | true => exact ⟨_, .asked hfile⟩
      | false => exact ⟨_, .missing hfile⟩
  | none =>
      cases htoml : (files (Path.join directory "appsettings.toml")).isFile with
      | true => exact ⟨_, .toml htoml⟩
      | false =>
          cases hjson : (files (Path.join directory "appsettings.json")).isFile with
          | true => exact ⟨_, .json htoml hjson⟩
          | false => exact ⟨_, .default htoml hjson⟩

/-- A regular file stands where the overlay of a base file belongs. -/
structure IsOverlay (files : Files) (base environment overlay : String) : Prop where
  environment_ne_empty : environment ≠ ""
  path_eq : ∃ stem extension, Path.Divided base stem extension ∧
    overlay = Path.withFileName base (stem ++ "." ++ environment ++ "." ++ extension)
  isFile : (files overlay).isFile = true

variable {base environment overlay : String}

theorem isOverlay_iff :
    IsOverlay files base environment overlay ↔
      overlayFile? files base environment = some overlay := by
  unfold overlayFile?
  rw [Option.filter_eq_some_iff, overlayPath?_eq_some_iff]
  constructor
  · rintro ⟨henvironment, hpath, hfile⟩
    exact ⟨⟨henvironment, hpath⟩, hfile⟩
  · rintro ⟨⟨henvironment, hpath⟩, hfile⟩
    exact ⟨henvironment, hpath, hfile⟩

theorem overlayFile?_eq_none (hnone : ∀ overlay, ¬ IsOverlay files base environment overlay) :
    overlayFile? files base environment = none := by
  rw [Option.eq_none_iff_forall_ne_some]
  intro overlay hsome
  exact hnone overlay (isOverlay_iff.mpr hsome)

/-- What loading a configuration comes to. -/
inductive Loads (files : Files) (directory : String) (explicit : Option String)
    (environment : String) : Except ConfigError Section → Prop
  | missing {error : ConfigError} :
      Chooses files directory explicit (.error error) →
      Loads files directory explicit environment (.error error)
  | default : Chooses files directory explicit (.ok none) →
      Loads files directory explicit environment (.ok .empty)
  | baseFails {base : String} {error : ConfigError} :
      Chooses files directory explicit (.ok (some base)) →
      Reads files base (.error error) →
      Loads files directory explicit environment (.error error)
  | alone {base : String} {found : Section} :
      Chooses files directory explicit (.ok (some base)) → Reads files base (.ok found) →
      (∀ overlay, ¬ IsOverlay files base environment overlay) →
      Loads files directory explicit environment (.ok found)
  | overlayFails {base overlay : String} {found : Section} {error : ConfigError} :
      Chooses files directory explicit (.ok (some base)) → Reads files base (.ok found) →
      IsOverlay files base environment overlay → Reads files overlay (.error error) →
      Loads files directory explicit environment (.error error)
  | overlaid {base overlay : String} {found upper : Section} :
      Chooses files directory explicit (.ok (some base)) → Reads files base (.ok found) →
      IsOverlay files base environment overlay → Reads files overlay (.ok upper) →
      Loads files directory explicit environment (.ok (found.overlay upper))

theorem Loads.load_eq {result : Except ConfigError Section}
    (hloads : Loads files directory explicit environment result) :
    load files directory explicit environment = result := by
  unfold load
  cases hloads with
  | missing hchooses =>
      rw [hchooses.basePath_eq]
      rfl
  | default hchooses =>
      rw [hchooses.basePath_eq]
      rfl
  | baseFails hchooses hbase =>
      rw [hchooses.basePath_eq]
      simp only [bind, Except.bind, hbase.ofFile_eq]
  | alone hchooses hbase hnone =>
      rw [hchooses.basePath_eq]
      simp only [bind, Except.bind, hbase.ofFile_eq, overlayFile?_eq_none hnone]
      rfl
  | overlayFails hchooses hbase hoverlay hupper =>
      rw [hchooses.basePath_eq]
      simp only [bind, Except.bind, hbase.ofFile_eq, isOverlay_iff.mp hoverlay,
        hupper.ofFile_eq]
  | overlaid hchooses hbase hoverlay hupper =>
      rw [hchooses.basePath_eq]
      simp only [bind, Except.bind, hbase.ofFile_eq, isOverlay_iff.mp hoverlay,
        hupper.ofFile_eq]
      rfl

theorem exists_loads (files : Files) (directory : String) (explicit : Option String)
    (environment : String) : ∃ result, Loads files directory explicit environment result := by
  obtain ⟨chosen, hchooses⟩ := exists_chooses files directory explicit
  match chosen with
  | .error error => exact ⟨_, .missing hchooses⟩
  | .ok none => exact ⟨_, .default hchooses⟩
  | .ok (some base) =>
      obtain ⟨read, hbase⟩ := exists_reads files base
      cases read with
      | error error => exact ⟨_, .baseFails hchooses hbase⟩
      | ok found =>
          by_cases hexists : ∃ overlay, IsOverlay files base environment overlay
          · obtain ⟨overlay, hoverlay⟩ := hexists
            obtain ⟨read, hupper⟩ := exists_reads files overlay
            cases read with
            | error error => exact ⟨_, .overlayFails hchooses hbase hoverlay hupper⟩
            | ok upper => exact ⟨_, .overlaid hchooses hbase hoverlay hupper⟩
          · exact ⟨_, .alone hchooses hbase (not_exists.mp hexists)⟩

theorem loads_iff {result : Except ConfigError Section} :
    load files directory explicit environment = result ↔
      Loads files directory explicit environment result := by
  constructor
  · rintro rfl
    obtain ⟨result, hloads⟩ := exists_loads files directory explicit environment
    rw [hloads.load_eq]
    exact hloads
  · exact Loads.load_eq

/-! ## Failures -/

theorem Reads.names {error : ConfigError} (hreads : Reads files path (.error error)) :
    error.Names path := by
  cases hreads with
  | unsupported _ =>
      refine ⟨"unsupported configuration file ", " (expected .toml or .json)", ?_⟩
      rw [ConfigError.chain, List.head?_cons, Option.some.injEq, ← String.toList_inj]
      simp
  | unreadable _ _ =>
      refine ⟨"failed to read configuration file ", "", ?_⟩
      rw [ConfigError.chain, List.head?_cons, Option.some.injEq, ← String.toList_inj]
      simp
  | invalid _ _ _ =>
      refine ⟨"failed to parse configuration file ", "", ?_⟩
      rw [ConfigError.chain, List.head?_cons, Option.some.injEq, ← String.toList_inj]
      simp

theorem Chooses.names {error : ConfigError}
    (hchooses : Chooses files directory explicit (.error error)) :
    ∃ path, explicit = some path ∧ error.Names (Path.join directory path) := by
  cases hchooses with
  | @missing path hfile =>
      refine ⟨path, rfl, "configuration file ", " not found", ?_⟩
      rw [ConfigError.chain, List.head?_cons, Option.some.injEq, ← String.toList_inj]
      simp

theorem Chooses.mem_candidates (environment : String)
    (hchooses : Chooses files directory explicit (.ok (some base))) :
    base ∈ candidates directory explicit environment ∧
      ∀ overlay, overlayPath? base environment = some overlay →
        overlay ∈ candidates directory explicit environment := by
  have hlisted : ∀ {bases : List String}, base ∈ bases →
      base ∈ bases ++ bases.filterMap (overlayPath? · environment) ∧
        ∀ overlay, overlayPath? base environment = some overlay →
          overlay ∈ bases ++ bases.filterMap (overlayPath? · environment) := by
    intro bases hmem
    refine ⟨List.mem_append_left _ hmem, fun overlay hpath => ?_⟩
    exact List.mem_append_right _ (List.mem_filterMap.mpr ⟨base, hmem, hpath⟩)
  unfold candidates
  cases hchooses with
  | asked _ => exact hlisted (List.mem_singleton.mpr rfl)
  | toml _ => exact hlisted (by simp [defaultPaths_eq])
  | json _ _ => exact hlisted (by simp [defaultPaths_eq])

theorem Loads.names {error : ConfigError}
    (hloads : Loads files directory explicit environment (.error error)) :
    ∃ path ∈ candidates directory explicit environment, error.Names path := by
  cases hloads with
  | missing hchooses =>
      obtain ⟨path, rfl, hnames⟩ := hchooses.names
      exact ⟨_, by simp [candidates], hnames⟩
  | @baseFails base _ hchooses hbase =>
      exact ⟨base, (hchooses.mem_candidates environment).1, hbase.names⟩
  | @overlayFails base overlay _ _ hchooses _ hoverlay hupper =>
      have hpath := overlayPath?_eq_some_iff.mpr
        ⟨hoverlay.environment_ne_empty, hoverlay.path_eq⟩
      exact ⟨overlay, (hchooses.mem_candidates environment).2 overlay hpath, hupper.names⟩

/-! ## The files that count -/

variable {other : Files}

theorem ofFile_congr (hsame : other path = files path) :
    ofFile other path = ofFile files path := by
  have hcontent : content? other path = content? files path := by
    rw [content?, content?, hsame]
  rw [ofFile, ofFile, hcontent]

theorem overlayFile?_congr (hsame : ∀ overlay,
      overlayPath? base environment = some overlay → other overlay = files overlay) :
    overlayFile? other base environment = overlayFile? files base environment := by
  unfold overlayFile?
  cases hpath : overlayPath? base environment with
  | none => rfl
  | some overlay => rw [Option.filter_some, Option.filter_some, hsame overlay hpath]

theorem load_congr {otherDirectory : String} {otherExplicit : Option String}
    (hchosen : basePath files directory explicit = .ok (some base))
    (hother : basePath other otherDirectory otherExplicit = .ok (some base))
    (hbase : other base = files base)
    (hoverlay : ∀ overlay,
      overlayPath? base environment = some overlay → other overlay = files overlay) :
    load other otherDirectory otherExplicit environment =
      load files directory explicit environment := by
  unfold load
  rw [hchosen, hother]
  simp only [bind, Except.bind, ofFile_congr hbase, overlayFile?_congr hoverlay]
  cases hfound : overlayFile? files base environment with
  | none => rfl
  | some overlay =>
      have hpath := (Option.filter_eq_some_iff.mp hfound).1
      simp only [ofFile_congr (hoverlay overlay hpath)]

theorem Chooses.congr {chosen : Except ConfigError (Option String)}
    (hchooses : Chooses files directory explicit chosen)
    (hsame : ∀ path ∈ candidates directory explicit environment, other path = files path) :
    Chooses other directory explicit chosen := by
  have hasked : ∀ path, explicit = some path →
      other (Path.join directory path) = files (Path.join directory path) := by
    rintro path rfl
    exact hsame _ (by simp [candidates])
  have hdefault : explicit = none → ∀ path ∈ defaultPaths directory,
      other path = files path := by
    rintro rfl path hmem
    exact hsame path (List.mem_append_left _ hmem)
  cases hchooses with
  | @asked path hfile => exact .asked (by rw [hasked path rfl, hfile])
  | @missing path hfile => exact .missing (by rw [hasked path rfl, hfile])
  | toml hfile =>
      rw [defaultPaths_eq] at hdefault
      exact .toml (by rw [hdefault rfl _ (by simp), hfile])
  | json htoml hfile =>
      rw [defaultPaths_eq] at hdefault
      exact .json (by rw [hdefault rfl _ (by simp), htoml])
        (by rw [hdefault rfl _ (by simp), hfile])
  | default htoml hjson =>
      rw [defaultPaths_eq] at hdefault
      exact .default (by rw [hdefault rfl _ (by simp), htoml])
        (by rw [hdefault rfl _ (by simp), hjson])

/-- A configuration depends on no file but those at the candidate paths. -/
theorem load_eq_of_candidates
    (hsame : ∀ path ∈ candidates directory explicit environment, other path = files path) :
    load other directory explicit environment = load files directory explicit environment := by
  obtain ⟨chosen, hchooses⟩ := exists_chooses files directory explicit
  have hother := hchooses.congr hsame
  match chosen with
  | .error error =>
      have hfailed : Loads files directory explicit environment (.error error) :=
        .missing hchooses
      rw [hfailed.load_eq]
      exact (Loads.missing hother).load_eq
  | .ok none =>
      have hempty : Loads files directory explicit environment (.ok .empty) :=
        .default hchooses
      rw [hempty.load_eq]
      exact (Loads.default hother).load_eq
  | .ok (some base) =>
      obtain ⟨hbase, hoverlay⟩ := hchooses.mem_candidates environment
      apply load_congr hchooses.basePath_eq hother.basePath_eq (hsame base hbase)
      intro overlay hpath
      exact hsame overlay (hoverlay overlay hpath)

/-- Loading comes to what its rules say and to nothing else.  Its failures name a file
that it looks for, and no other file counts: two directories in which the same base file
is chosen give the same configuration if this file and its overlay agree. -/
theorem load_settled (files : Files) (directory : String) (explicit : Option String)
    (environment : String) :
    (∀ result, load files directory explicit environment = result ↔
      Loads files directory explicit environment result) ∧
    (∀ error, load files directory explicit environment = .error error →
      ∃ path ∈ candidates directory explicit environment, error.Names path) ∧
    (∀ (other : Files) (otherDirectory : String) (otherExplicit : Option String)
      (base : String), Chooses files directory explicit (.ok (some base)) →
      Chooses other otherDirectory otherExplicit (.ok (some base)) →
      other base = files base →
      (∀ overlay, overlayPath? base environment = some overlay →
        other overlay = files overlay) →
      load other otherDirectory otherExplicit environment =
        load files directory explicit environment) ∧
    ∀ other : Files,
      (∀ path ∈ candidates directory explicit environment, other path = files path) →
      load other directory explicit environment =
        load files directory explicit environment := by
  refine ⟨fun result => loads_iff, ?_, ?_, fun other => load_eq_of_candidates⟩
  · intro error herror
    exact (loads_iff.mp herror).names
  · intro other otherDirectory otherExplicit base hchosen hother hbase hoverlay
    exact load_congr hchosen.basePath_eq hother.basePath_eq hbase hoverlay

def siblingFiles (content : String) : Files := fun path =>
  if path = "./appsettings.toml" then
    .file (LineFeed.encoded "[ReplConsole]\nPrompt = \"$ \"\n")
  else if path = "./appsettings.json" then .file (LineFeed.encoded content)
  else .absent

theorem chooses_siblingFiles (content : String) :
    Chooses (siblingFiles content) "." none (.ok (some "./appsettings.toml")) := by
  have hjoin : Path.join "." "appsettings.toml" = "./appsettings.toml" := by
    decide +kernel
  rw [← hjoin]
  apply Chooses.toml
  rw [hjoin]
  rfl

theorem load_siblingFiles :
    Chooses (siblingFiles "[") "." none (.ok (some "./appsettings.toml")) ∧
    Chooses (siblingFiles "[]") "." none (.ok (some "./appsettings.toml")) ∧
    siblingFiles "[" "./appsettings.json" ≠ siblingFiles "[]" "./appsettings.json" ∧
    load (siblingFiles "[") "." none "Production" =
      load (siblingFiles "[]") "." none "Production" := by
  have hbroken := chooses_siblingFiles "["
  have hempty := chooses_siblingFiles "[]"
  refine ⟨hbroken, hempty, by decide +kernel, ?_⟩
  apply (load_settled (siblingFiles "[]") "." none "Production").2.2.1 _ _ _ _ hempty
    hbroken
  · rfl
  · intro overlay hoverlay
    have hpath : overlayPath? "./appsettings.toml" "Production" =
        some "./appsettings.Production.toml" := by decide +kernel
    rw [hpath, Option.some.injEq] at hoverlay
    subst hoverlay
    rfl

end Config

/-! ## Which value of a setting counts -/

/-- The two sections of a configuration: that of the base file and that of the overlay
for the environment.  A file that is not there has an empty section. -/
inductive Config.Layers (files : Files) (directory : String) (explicit : Option String)
    (environment : String) : Section → Section → Prop
  | neither : basePath files directory explicit = .ok none →
      Layers files directory explicit environment .empty .empty
  | base {path : String} {base : Section} :
      basePath files directory explicit = .ok (some path) →
      ofFile files path = .ok base → overlayFile? files path environment = none →
      Layers files directory explicit environment base .empty
  | both {path overlayPath : String} {base upper : Section} :
      basePath files directory explicit = .ok (some path) →
      ofFile files path = .ok base →
      overlayFile? files path environment = some overlayPath →
      ofFile files overlayPath = .ok upper →
      Layers files directory explicit environment base upper

namespace Config

variable {files : Files} {directory : String} {explicit : Option String}
  {environment : String}

theorem Layers.unique {base upper otherBase otherUpper : Section}
    (hlayers : Layers files directory explicit environment base upper)
    (hother : Layers files directory explicit environment otherBase otherUpper) :
    otherBase = base ∧ otherUpper = upper := by
  cases hlayers <;> cases hother <;> simp_all

theorem exists_layers_of_load {found : Section}
    (hload : load files directory explicit environment = .ok found) :
    ∃ base upper, Layers files directory explicit environment base upper ∧
      found = base.overlay upper := by
  cases loads_iff.mp hload with
  | default hchooses => exact ⟨.empty, .empty, .neither hchooses.basePath_eq, rfl⟩
  | alone hchooses hbase hnone =>
      refine ⟨found, .empty, ?_, rfl⟩
      exact .base hchooses.basePath_eq hbase.ofFile_eq (overlayFile?_eq_none hnone)
  | @overlaid _ _ base upper hchooses hbase hoverlay hupper =>
      refine ⟨base, upper, ?_, rfl⟩
      exact .both hchooses.basePath_eq hbase.ofFile_eq (isOverlay_iff.mp hoverlay)
        hupper.ofFile_eq

end Config

def Options.sources? (options : Options) : Option (List String) :=
  if options.commandSources = [] then none else some options.commandSources

/-- Each of the settings is the first value that its layers give. -/
structure Settings.Resolved (options : Options) (base upper : Section)
    (settings : Settings) : Prop where
  appName : FirstGiven "ReplConsole" [options.appName, upper.appName, base.appName]
    settings.appName
  prompt : FirstGiven "> " [options.prompt, upper.prompt, base.prompt] settings.prompt
  commandSources : FirstGiven []
    [options.sources?, upper.commandSources, base.commandSources] settings.commandSources
  appVersion : FirstGiven Program.version [upper.appVersion, base.appVersion]
    settings.appVersion
  consoleTitle : FirstGiven (settings.appName ++ " " ++ settings.appVersion)
    [upper.consoleTitle, base.consoleTitle] settings.consoleTitle
  environment : settings.environment = options.environment

theorem Section.applyOptions_commandSources (found : Section) (options : Options) :
    (found.applyOptions options).commandSources =
      (options.sources? <|> found.commandSources) := by
  unfold applyOptions Options.sources?
  cases options.commandSources <;> rfl

theorem Program.settings_resolved (options : Options) (base upper : Section) :
    (Program.settings options (base.overlay upper)).Resolved options base upper := by
  constructor
  · exact .over (.over (.last _ base.appName) upper.appName) options.appName
  · exact .over (.over (.last _ base.prompt) upper.prompt) options.prompt
  · have hsources := FirstGiven.over (.over (.last [] base.commandSources)
      upper.commandSources) options.sources?
    simpa [Program.settings, Section.settings, Section.applyOptions_commandSources,
      Section.overlay] using hsources
  · exact .over (.last _ base.appVersion) upper.appVersion
  · exact .over (.last _ base.consoleTitle) upper.consoleTitle
  · rfl

/-- The settings of accepted arguments, variables and files take the first value that
is given: by an argument, a variable, the overlay or the base file, in this order.  A
key of a table in a file is given whenever it has a value there, be it empty. -/
theorem Program.settings_take_first_given {arguments : List String}
    {env : Arguments.Variables} {options : Options} {files : Files} {directory : String}
    {found : Section} (hparse : Options.parse arguments env = .ok options)
    (hload : Config.load files directory options.config options.environment =
      .ok found) :
    (∃ given, Arguments.read {} arguments = .ok given ∧ options.Spelled given env) ∧
    (∃ base upper,
      Config.Layers files directory options.config options.environment base upper ∧
      (∀ otherBase otherUpper, Config.Layers files directory options.config
        options.environment otherBase otherUpper →
          otherBase = base ∧ otherUpper = upper) ∧
      (Program.settings options found).Resolved options base upper) ∧
    (∀ path read text? texts?, Config.ofFile files path = .ok read →
      Config.TabulatesAt files path text? texts? → read.SetBy text? texts?) := by
  obtain ⟨base, upper, hlayers, rfl⟩ := Config.exists_layers_of_load hload
  refine ⟨Options.spelled_of_parse hparse, ⟨base, upper, hlayers, ?_, ?_⟩, ?_⟩
  · intro otherBase otherUpper hother
    exact hlayers.unique hother
  · exact Program.settings_resolved options base upper
  · intro path read text? texts? hfile htable
    exact htable.setBy hfile

/-- A base file that sets three keys and an overlay that empties two of them. -/
def Program.layeredFiles : Files := fun path =>
  if path = "./appsettings.toml" then
    .file (("[ReplConsole]\nAppName = \"Base\"\nPrompt = \"$ \"\n" ++
      "CommandSources = [\"extra\"]\n").toUTF8.data.toList)
  else if path = "./appsettings.Production.toml" then
    .file "[ReplConsole]\nPrompt = \"\"\nCommandSources = []\n".toUTF8.data.toList
  else .absent

theorem Program.settings_of_layeredFiles :
    Options.parse ["--app-name", "Shell"] (fun _ => none) = .ok { appName := "Shell" } ∧
    Config.load layeredFiles "." none "Production" =
      .ok { appName := "Base", prompt := "", commandSources := some [] } ∧
    ∃ base upper, Config.Layers layeredFiles "." none "Production" base upper ∧
      Settings.Resolved { appName := "Shell" } base upper
        { appName := "Shell", appVersion := Program.version, prompt := "",
          commandSources := [] } := by
  have hparse : Options.parse ["--app-name", "Shell"] (fun _ => none) =
      .ok { appName := "Shell" } := by
    rfl
  have hload : Config.load layeredFiles "." none "Production" =
      .ok { appName := "Base", prompt := "", commandSources := some [] } := by
    have hfound : (Config.load layeredFiles "." none "Production").toOption =
        some { appName := "Base", prompt := "", commandSources := some [] } := by
      decide +kernel
    cases hresult : Config.load layeredFiles "." none "Production" with
    | error error => simp [hresult, Except.toOption] at hfound
    | ok found => simpa [hresult, Except.toOption] using hfound
  obtain ⟨_, ⟨base, upper, hlayers, _, hresolved⟩, _⟩ :=
    Program.settings_take_first_given hparse hload
  exact ⟨hparse, hload, base, upper, hlayers, hresolved⟩

end CommandShell
