import CommandShell.Program
import CommandShell.Proofs.Console.Coloring
import CommandShell.Proofs.Options
import CommandShell.Proofs.Session.Rendering

/-!
# Colors turned off by a variable or by a flag

What a run writes is the recording of its session, written by the terminal of the launch.
So two launches that differ in their terminals are compared call by call.
-/

namespace CommandShell

namespace Program

def recording (settings : Settings) (input : List Input) : Run Call :=
  Session.runFrom ⟨Console.recorder, .endProcess⟩ settings Catalog.linked false input

def calls (launch : Launch) (settings : Settings) (input : List Input) : List Call :=
  (if launch.interactive then [.title settings.consoleTitle] else []) ++
    (recording settings input).transcript.outputs

theorem runFrom_surroundings (launch : Launch) (options : Options) (settings : Settings)
    (input : List Input) :
    Session.runFrom (surroundings launch options) settings Catalog.linked false input =
      (recording settings input).rendered (terminal launch options).write :=
  Session.runFrom_eq_rendered_recording (surroundings launch options) settings
    Catalog.linked false input

theorem opening_eq (launch : Launch) (options : Options) (settings : Settings) :
    opening launch options settings =
      (if launch.interactive then [Call.title settings.consoleTitle] else []).map
        (terminal launch options).write := by
  unfold opening
  split <;> rfl

/-- A session of the program is its recording, written by the terminal. -/
theorem serve_eq (launch : Launch) (options : Options) (settings : Settings)
    (input : List Input) :
    serve launch options settings input =
      { output := (terminal launch options).writeAll (calls launch settings input)
        exitCode := sessionCode (recording settings input).verdict
        error := sessionError (recording settings input).verdict
        log := (recording settings input).transcript.records } := by
  unfold serve
  rw [runFrom_surroundings, opening_eq]
  simp only [Run.rendered, Transcript.outputs_rendered, Transcript.records_rendered,
    Terminal.writeAll, calls, List.map_append]

/-! ## Colors turned off by a variable or by a flag -/

/-- The launch with the flag in front of its arguments in place of the variable. -/
def Launch.flagged (launch : Launch) : Launch :=
  { launch with
    arguments := "--no-color" :: launch.arguments
    env := launch.env.withoutNoColor }

def consoleCalls (launch : Launch) (bytes : List UInt8) : List Call :=
  match configure launch with
  | .error _ => []
  | .ok (_, settings) => calls launch settings (LineFeed.inputs bytes)

theorem configure_flagged {launch : Launch} (hflag : "--no-color" ∉ launch.arguments) :
    configure launch.flagged =
      (configure launch).map fun configured =>
        (configured.1.uncolored, configured.2) := by
  have hparse : Options.parse launch.flagged.arguments launch.flagged.env =
      (Options.parse launch.arguments launch.env).map Options.uncolored :=
    Options.parse_flag_cons launch.env hflag
  unfold configure
  rw [hparse]
  cases Options.parse launch.arguments launch.env with
  | error error => rfl
  | ok options =>
      simp only [Except.map, Launch.flagged, Options.uncolored]
      cases Config.load launch.files "." options.config options.environment <;> rfl

theorem exists_found_of_configure {launch : Launch} {options : Options}
    {settings : Settings} (hconfigured : configure launch = .ok (options, settings)) :
    Options.parse launch.arguments launch.env = .ok options ∧
      ∃ found, Config.load launch.files "." options.config options.environment = .ok found ∧
        settings = Program.settings options found := by
  unfold configure at hconfigured
  split at hconfigured
  · contradiction
  · rename_i hparse
    split at hconfigured
    · contradiction
    · rename_i hload
      rw [Except.ok.injEq, Prod.mk.injEq] at hconfigured
      obtain ⟨rfl, rfl⟩ := hconfigured
      exact ⟨hparse, _, hload, rfl⟩

theorem noColor_of_configure {launch : Launch} {options : Options} {settings : Settings}
    (hconfigured : configure launch = .ok (options, settings))
    (hflag : "--no-color" ∉ launch.arguments) :
    options.noColor = (launch.env "NO_COLOR").any Arguments.isTrue :=
  Options.noColor_of_parse (exists_found_of_configure hconfigured).1 hflag

theorem colors_terminal_flagged (launch : Launch) (options : Options) :
    (terminal launch.flagged options.uncolored).colors = false := by
  simp [terminal, Terminal.forEnvironment, Options.uncolored]

theorem colors_terminal (launch : Launch) (options : Options) :
    (terminal launch options).colors = (launch.interactive && !options.noColor) := rfl

/-- A program on a terminal ends alike with the variable `NO_COLOR` and with the flag
`--no-color` in its place.  Its output is the same just if the value of the variable
is true or nothing is written in color. -/
theorem output_variable_eq_output_flag_iff {launch : Launch} {value : String}
    (bytes : List UInt8) (hinteractive : launch.interactive = true)
    (hvalue : launch.env "NO_COLOR" = some value)
    (hflag : "--no-color" ∉ launch.arguments) :
    (run launch bytes).exitCode = (run launch.flagged bytes).exitCode ∧
      (run launch bytes).error = (run launch.flagged bytes).error ∧
      ((run launch bytes).output = (run launch.flagged bytes).output ↔
        value.toLower ∉ ["", "n", "no", "f", "false", "off", "0"] ∨
          ∀ call ∈ consoleCalls launch bytes, call.color? = none) := by
  have hflagged := configure_flagged hflag
  unfold run consoleCalls
  cases hconfigured : configure launch with
  | error result =>
      rw [hflagged, hconfigured]
      simp [Except.map]
  | ok configured =>
      obtain ⟨options, settings⟩ := configured
      rw [hflagged, hconfigured]
      simp only [Except.map, serve_eq, true_and]
      have hcalls : calls launch.flagged settings (LineFeed.inputs bytes) =
          calls launch settings (LineFeed.inputs bytes) := rfl
      have hplain := colors_terminal_flagged launch options
      have hcolors : (terminal launch options).colors = !Arguments.isTrue value := by
        rw [colors_terminal, hinteractive,
          noColor_of_configure hconfigured hflag, hvalue]
        rfl
      rw [hcalls]
      by_cases htrue : value.toLower ∈ ["", "n", "no", "f", "false", "off", "0"]
      · have hstyled : (terminal launch options).colors = true := by
          rw [hcolors, Arguments.isTrue, Arguments.falseWords]
          simpa using htrue
        rw [Terminal.writeAll_eq_iff hplain hstyled]
        simp [htrue]
      · have hunstyled : (terminal launch options).colors = false := by
          rw [hcolors, Arguments.isTrue, Arguments.falseWords]
          simpa using htrue
        have hwrite := Terminal.write_eq_of_colors_false hunstyled hplain
        rw [Terminal.writeAll, Terminal.writeAll, hwrite]
        simp [htrue]

def terminalLaunch (value : String) : Launch :=
  ⟨[], fun name => if name = "NO_COLOR" then some value else none, fun _ => .absent, true⟩

def unknownBytes : List UInt8 := [120, 10]

theorem output_variable_eq_output_flag_of_one :
    (run (terminalLaunch "1") unknownBytes).output =
      (run (terminalLaunch "1").flagged unknownBytes).output := by
  have hvalue : (terminalLaunch "1").env "NO_COLOR" = some "1" := rfl
  have hflag : "--no-color" ∉ (terminalLaunch "1").arguments := by
    simp [terminalLaunch]
  have hsame := (output_variable_eq_output_flag_iff unknownBytes rfl hvalue hflag).2.2
  exact hsame.mpr (Or.inl (by decide +kernel))

/-- A value of `NO_COLOR` that is not empty can leave colors on. -/
theorem output_variable_not_always_output_flag :
    ¬ ∀ (launch : Launch) (value : String) (bytes : List UInt8),
      launch.interactive = true → launch.env "NO_COLOR" = some value → value ≠ "" →
      "--no-color" ∉ launch.arguments →
      (∃ options, Options.parse launch.arguments launch.env = .ok options) →
      (run launch bytes).output = (run launch.flagged bytes).output ∧
        (run launch bytes).exitCode = (run launch.flagged bytes).exitCode := by
  intro halways
  have hsame := (halways (terminalLaunch "0") "0" unknownBytes rfl rfl (by decide)
    (by simp [terminalLaunch]) ⟨_, rfl⟩).1
  have hdiffers : (run (terminalLaunch "0") unknownBytes).output ≠
      (run (terminalLaunch "0").flagged unknownBytes).output := by
    decide +kernel
  exact hdiffers hsame

end Program

end CommandShell
