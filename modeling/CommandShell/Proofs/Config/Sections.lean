import CommandShell.Config
import CommandShell.Settings

/-! # Sections as layers -/

namespace CommandShell

namespace Section

inductive Key where
  | appName
  | appVersion
  | consoleTitle
  | prompt
  | commandSources

def Key.Value : Key → Type
  | appName => String
  | appVersion => String
  | consoleTitle => String
  | prompt => String
  | commandSources => List String

def get? (found : Section) : (key : Key) → Option key.Value
  | .appName => found.appName
  | .appVersion => found.appVersion
  | .consoleTitle => found.consoleTitle
  | .prompt => found.prompt
  | .commandSources => found.commandSources

theorem ext_get? {first second : Section} (h : ∀ key, first.get? key = second.get? key) :
    first = second := by
  cases first
  cases second
  rw [mk.injEq]
  exact ⟨h .appName, h .appVersion, h .consoleTitle, h .prompt, h .commandSources⟩

theorem get?_overlay (base upper : Section) (key : Key) :
    (base.overlay upper).get? key = (upper.get? key <|> base.get? key) := by
  cases key <;> rfl

theorem overlay_self (only : Section) : only.overlay only = only := by
  refine ext_get? fun key => ?_
  rw [get?_overlay]
  cases only.get? key <;> rfl

theorem overlayAll_append (base : Section) (earlier later : List Section) :
    base.overlayAll (earlier ++ later) = (base.overlayAll earlier).overlayAll later :=
  List.foldl_append

theorem overlay_overlayAll (base upper : Section) (later : List Section) :
    base.overlay (upper.overlayAll later) = (base.overlay upper).overlayAll later := by
  induction later generalizing upper with
  | nil => rfl
  | cons next rest ih =>
      calc base.overlay (upper.overlayAll (next :: rest))
          = (base.overlay (upper.overlay next)).overlayAll rest := ih (upper.overlay next)
        _ = (base.overlay upper).overlayAll (next :: rest) := by
          rw [← overlay_assoc]
          rfl

/-- A value is the one that the last of many layers to set a key has for it. -/
def LastSet (layers : List Section) (key : Key) (value : key.Value) : Prop :=
  ∃ earlier upper later, layers = earlier ++ upper :: later ∧
    upper.get? key = some value ∧ ∀ other ∈ later, other.get? key = none

theorem get?_overlayAll_of_unset {base : Section} {layers : List Section} {key : Key}
    (hunset : ∀ layer ∈ layers, layer.get? key = none) :
    (base.overlayAll layers).get? key = base.get? key := by
  induction layers generalizing base with
  | nil => rfl
  | cons first rest ih =>
      have hfirst : first.get? key = none := hunset first (by simp)
      have hrest : ∀ layer ∈ rest, layer.get? key = none :=
        fun layer hmem => hunset layer (List.mem_cons_of_mem first hmem)
      calc ((base.overlay first).overlayAll rest).get? key
          = (base.overlay first).get? key := ih hrest
        _ = base.get? key := by
          rw [get?_overlay, hfirst]
          rfl

theorem get?_overlayAll_of_lastSet {base : Section} {layers : List Section} {key : Key}
    {value : key.Value} (hlast : LastSet layers key value) :
    (base.overlayAll layers).get? key = some value := by
  obtain ⟨earlier, upper, later, rfl, hupper, hlater⟩ := hlast
  calc (base.overlayAll (earlier ++ upper :: later)).get? key
      = (((base.overlayAll earlier).overlay upper).overlayAll later).get? key := by
        rw [overlayAll_append]
        rfl
    _ = ((base.overlayAll earlier).overlay upper).get? key := get?_overlayAll_of_unset hlater
    _ = some value := by
        rw [get?_overlay, hupper]
        rfl

theorem lastSet_or_unset (layers : List Section) (key : Key) :
    (∃ value, LastSet layers key value) ∨ ∀ layer ∈ layers, layer.get? key = none := by
  -- a layer that sets the key is the last one only if no later layer sets it
  induction layers with
  | nil => simp
  | cons first rest ih =>
      rcases ih with ⟨value, earlier, upper, later, rfl, hupper, hlater⟩ | hrest
      · exact Or.inl ⟨value, first :: earlier, upper, later, rfl, hupper, hlater⟩
      · cases hfirst : first.get? key with
        | some value => exact Or.inl ⟨value, [], first, rest, rfl, hfirst, hrest⟩
        | none => exact Or.inr (List.forall_mem_cons.mpr ⟨hfirst, hrest⟩)

theorem get?_overlayAll_eq_some_iff (base : Section) (layers : List Section) (key : Key)
    (value : key.Value) :
    (base.overlayAll layers).get? key = some value ↔
      LastSet layers key value ∨
        (∀ layer ∈ layers, layer.get? key = none) ∧ base.get? key = some value := by
  constructor
  · intro hvalue
    rcases lastSet_or_unset layers key with ⟨last, hlast⟩ | hunset
    · rw [get?_overlayAll_of_lastSet hlast, Option.some.injEq] at hvalue
      exact Or.inl (hvalue ▸ hlast)
    · rw [get?_overlayAll_of_unset hunset] at hvalue
      exact Or.inr ⟨hunset, hvalue⟩
  · rintro (hlast | ⟨hunset, hbase⟩)
    · exact get?_overlayAll_of_lastSet hlast
    · rw [get?_overlayAll_of_unset hunset, hbase]

theorem get?_overlayAll (base : Section) (layers : List Section) (key : Key) :
    (base.overlayAll layers).get? key =
      (layers.map fun layer => layer.get? key).foldl (fun kept given => given <|> kept)
        (base.get? key) := by
  induction layers generalizing base with
  | nil => rfl
  | cons first rest ih =>
      calc ((base.overlay first).overlayAll rest).get? key
          = (rest.map fun layer => layer.get? key).foldl (fun kept given => given <|> kept)
              ((base.overlay first).get? key) := ih (base.overlay first)
        _ = ((first :: rest).map fun layer => layer.get? key).foldl
              (fun kept given => given <|> kept) (base.get? key) := by
          rw [get?_overlay]
          rfl

/-- Overlaying is associative, the empty section is neutral, and a section that is put on
again changes nothing.  After any layers, in whatever groups they are put on, each of the
five keys has the value of the last layer that sets it, or that of the base if none does,
and what the layers have for the other keys makes no difference to it. -/
theorem overlay_is_last_set_monoid :
    (∀ first second third : Section,
      (first.overlay second).overlay third = first.overlay (second.overlay third)) ∧
    (∀ only : Section, empty.overlay only = only ∧ only.overlay empty = only) ∧
    (∀ base upper : Section, (base.overlay upper).overlay upper = base.overlay upper) ∧
    (∀ (base : Section) (earlier later : List Section),
      base.overlayAll (earlier ++ later) =
        (base.overlayAll earlier).overlay (empty.overlayAll later)) ∧
    (∀ (base : Section) (layers : List Section) (key : Key) (value : key.Value),
      (base.overlayAll layers).get? key = some value ↔
        LastSet layers key value ∨
          (∀ layer ∈ layers, layer.get? key = none) ∧ base.get? key = some value) ∧
    ∀ (key : Key) (base otherBase : Section) (layers otherLayers : List Section),
      base.get? key = otherBase.get? key →
      (layers.map fun layer => layer.get? key) =
        (otherLayers.map fun layer => layer.get? key) →
      (base.overlayAll layers).get? key = (otherBase.overlayAll otherLayers).get? key := by
  refine ⟨overlay_assoc, ?_, ?_, ?_, get?_overlayAll_eq_some_iff, ?_⟩
  · exact fun only => ⟨empty_overlay only, overlay_empty only⟩
  · intro base upper
    rw [overlay_assoc, overlay_self]
  · intro base earlier later
    rw [overlayAll_append, overlay_overlayAll, overlay_empty]
  · intro key base otherBase layers otherLayers hbase hlayers
    rw [get?_overlayAll, get?_overlayAll, hbase, hlayers]

example :
    overlayAll { prompt := "$ ", commandSources := some ["extra"] }
        [{ prompt := "" }, { commandSources := some [] }, { appName := "Shell" }] =
      { appName := "Shell", prompt := "", commandSources := some [] } := by
  decide

end Section

/-! ## The sections of files -/

/-- The section has under its five keys what is found under their names. -/
structure Section.SetBy (text? : String → Option String)
    (texts? : String → Option (List String)) (found : Section) : Prop where
  appName : found.appName = text? "AppName"
  appVersion : found.appVersion = text? "AppVersion"
  consoleTitle : found.consoleTitle = text? "ConsoleTitle"
  prompt : found.prompt = text? "Prompt"
  commandSources : found.commandSources = texts? "CommandSources"

namespace Toml

def textAt? (entries : List (String × Toml)) (key : String) : Option String :=
  (entries.lookup key).bind textOnly?

def textsAt? (entries : List (String × Toml)) (key : String) : Option (List String) :=
  (entries.lookup key).bind textsOnly?

theorem eq_bind_of_optional? {Value : Type} {read : Toml → Option Value}
    {value? : Option Toml} {found : Option Value}
    (hfound : optional? read value? = some found) : found = value?.bind read := by
  cases value? with
  | none => simpa [optional?] using hfound.symm
  | some value =>
      obtain ⟨result, hread, rfl⟩ := Option.map_eq_some_iff.mp hfound
      exact hread.symm

theorem setBy_of_sectionOfEntries? {entries : List (String × Toml)} {found : Section}
    (hfound : sectionOfEntries? entries = some found) :
    found.SetBy (textAt? entries) (textsAt? entries) := by
  unfold sectionOfEntries? sectionOfValues? at hfound
  simp only [bind, Option.bind_eq_some_iff, pure, Option.some.injEq] at hfound
  obtain ⟨name, hname, version, hversion, title, htitle, prompt, hprompt, sources,
    hsources, rfl⟩ := hfound
  constructor
  · exact eq_bind_of_optional? hname
  · exact eq_bind_of_optional? hversion
  · exact eq_bind_of_optional? htitle
  · exact eq_bind_of_optional? hprompt
  · exact eq_bind_of_optional? hsources

end Toml

namespace Json

def textsOnly? : Json → Option (List String)
  | .array elements => elements.mapM textOnly?
  | _ => none

def textAt? (members : List (String × Json)) (key : String) : Option String :=
  (member? key members).bind textOnly?

def textsAt? (members : List (String × Json)) (key : String) : Option (List String) :=
  (member? key members).bind textsOnly?

theorem eq_of_optionalText? {value : Json} {found : Option String}
    (hfound : optionalText? value = some found) : found = textOnly? value := by
  unfold optionalText? at hfound
  split at hfound
  · exact (Option.some.inj hfound).symm
  · exact (Option.some.inj hfound).symm
  · contradiction

theorem eq_of_optionalTexts? {value : Json} {found : Option (List String)}
    (hfound : optionalTexts? value = some found) : found = textsOnly? value := by
  unfold optionalTexts? at hfound
  split at hfound
  · exact (Option.some.inj hfound).symm
  · obtain ⟨texts, htexts, rfl⟩ := Option.map_eq_some_iff.mp hfound
    exact htexts.symm
  · contradiction

theorem setBy_of_section? {members : List (Option String × Json)}
    {keyed : List (String × Json)} {found : Section}
    (hkeyed : keys? members = some keyed)
    (hfound : section? (.object members) = some found) :
    found.SetBy (textAt? keyed) (textsAt? keyed) := by
  simp only [section?, sectionOfValues?, hkeyed, bind, Option.bind_some,
    Option.bind_eq_some_iff, pure, Option.some.injEq] at hfound
  obtain ⟨nameValue, hnameValue, versionValue, hversionValue, titleValue, htitleValue,
    promptValue, hpromptValue, sourcesValue, hsourcesValue, name, hname, version, hversion,
    title, htitle, prompt, hprompt, sources, hsources, rfl⟩ := hfound
  constructor
  · simpa [textAt?, hnameValue] using eq_of_optionalText? hname
  · simpa [textAt?, hversionValue] using eq_of_optionalText? hversion
  · simpa [textAt?, htitleValue] using eq_of_optionalText? htitle
  · simpa [textAt?, hpromptValue] using eq_of_optionalText? hprompt
  · simpa [textsAt?, hsourcesValue] using eq_of_optionalTexts? hsources

theorem configuration?_of_member? {members : List (Option String × Json)}
    {keyed : List (String × Json)} {inner : List (Option String × Json)}
    (hkeyed : keys? members = some keyed)
    (hinner : member? "ReplConsole" keyed = some (.object inner)) :
    configuration? (.object members) = section? (.object inner) := by
  unfold member? at hinner
  split at hinner
  · simp at hinner
  · rename_i hfilter
    rw [Option.some.injEq] at hinner
    simp [configuration?, hkeyed, hfilter, hinner]
  · contradiction

end Json

namespace Config

inductive Tabulates : ConfigFormat → String → (String → Option String) →
    (String → Option (List String)) → Prop
  | toml {content : String} {root entries : List (String × Toml)}
      {implicit dotted : Bool} :
      Toml.parse? content = some root →
      root.lookup "ReplConsole" = some (.table implicit dotted entries) →
      Tabulates .toml content (Toml.textAt? entries) (Toml.textsAt? entries)
  | inlineToml {content : String} {root entries : List (String × Toml)} :
      Toml.parse? content = some root →
      root.lookup "ReplConsole" = some (.inlineTable entries) →
      Tabulates .toml content (Toml.textAt? entries) (Toml.textsAt? entries)
  | json {content : String} {root inner : List (Option String × Json)}
      {members keyed : List (String × Json)} :
      Json.parse? content = some (.object root) → Json.keys? root = some members →
      Json.member? "ReplConsole" members = some (.object inner) →
      Json.keys? inner = some keyed →
      Tabulates .json content (Json.textAt? keyed) (Json.textsAt? keyed)

def TabulatesAt (files : Files) (path : String) (text? : String → Option String)
    (texts? : String → Option (List String)) : Prop :=
  ∃ format content, ConfigFormat.ofPath path = .ok format ∧
    content? files path = some content ∧ Tabulates format content text? texts?

variable {text? : String → Option String} {texts? : String → Option (List String)}
  {found : Section}

theorem Tabulates.setBy {format : ConfigFormat} {content : String}
    (htable : Tabulates format content text? texts?)
    (hparse : parse format content = .ok found) : found.SetBy text? texts? := by
  unfold parse at hparse
  cases htable with
  | toml hroot hentries =>
      simp only [hroot, Option.bind_some, Toml.configuration?, hentries, Toml.section?]
        at hparse
      split at hparse
      · rename_i hsection
        rw [Except.ok.injEq] at hparse
        exact hparse ▸ Toml.setBy_of_sectionOfEntries? hsection
      · contradiction
  | inlineToml hroot hentries =>
      simp only [hroot, Option.bind_some, Toml.configuration?, hentries, Toml.section?]
        at hparse
      split at hparse
      · rename_i hsection
        rw [Except.ok.injEq] at hparse
        exact hparse ▸ Toml.setBy_of_sectionOfEntries? hsection
      · contradiction
  | json hroot hmembers hinner hkeyed =>
      simp only [hroot, Option.bind_some,
        Json.configuration?_of_member? hmembers hinner] at hparse
      split at hparse
      · rename_i hsection
        rw [Except.ok.injEq] at hparse
        exact hparse ▸ Json.setBy_of_section? hkeyed hsection
      · contradiction

theorem TabulatesAt.setBy {files : Files} {path : String}
    (htable : TabulatesAt files path text? texts?)
    (hfile : ofFile files path = .ok found) : found.SetBy text? texts? := by
  obtain ⟨format, content, hformat, hcontent, hkeys⟩ := htable
  simp only [ofFile, hformat, hcontent] at hfile
  split at hfile
  · rename_i hparse
    rw [Except.ok.injEq] at hfile
    exact hfile ▸ hkeys.setBy hparse
  · contradiction

end Config

end CommandShell
