/-! # Settings -/

namespace CommandShell

structure Settings where
  environment : String := "Production"
  appName : String := "ReplConsole"
  appVersion : String := "<unknown>"
  title : Option String := none
  prompt : String := "> "
  commandSources : List String := []
  deriving DecidableEq, Repr

namespace Settings

/-- The title of the window: the one that was set, or the name and the
version. -/
def consoleTitle (settings : Settings) : String :=
  settings.title.getD (settings.appName ++ " " ++ settings.appVersion)

def setPrompt (settings : Settings) (prompt : String) : Settings :=
  { settings with prompt := prompt }

def banner (settings : Settings) : String :=
  settings.appName ++ " Version " ++ settings.appVersion ++ "\n"

end Settings

/-! ## Configuration sections -/

structure Section where
  appName : Option String := none
  appVersion : Option String := none
  consoleTitle : Option String := none
  prompt : Option String := none
  commandSources : Option (List String) := none
  deriving DecidableEq, Repr

namespace Section

def empty : Section := {}

/-- The first section with every key of the second put over it. -/
def overlay (base upper : Section) : Section where
  appName := upper.appName <|> base.appName
  appVersion := upper.appVersion <|> base.appVersion
  consoleTitle := upper.consoleTitle <|> base.consoleTitle
  prompt := upper.prompt <|> base.prompt
  commandSources := upper.commandSources <|> base.commandSources

def overlayAll (base : Section) (sections : List Section) : Section :=
  sections.foldl overlay base

@[simp] theorem overlay_empty (base : Section) : base.overlay empty = base := rfl

@[simp] theorem empty_overlay (upper : Section) : empty.overlay upper = upper := by
  rcases upper with ⟨name, version, title, prompt, sources⟩
  cases name <;> cases version <;> cases title <;> cases prompt <;> cases sources <;> rfl

theorem overlay_assoc (first second third : Section) :
    (first.overlay second).overlay third = first.overlay (second.overlay third) := by
  rcases third with ⟨name, version, title, prompt, sources⟩
  cases name <;> cases version <;> cases title <;> cases prompt <;> cases sources <;> rfl

end Section

end CommandShell
