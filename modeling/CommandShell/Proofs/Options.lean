import CommandShell.Options

/-! # What arguments and variables give -/

namespace CommandShell

inductive FirstGiven {Value : Type} (default : Value) : List (Option Value) → Value → Prop
  | default : FirstGiven default [] default
  | given (value : Value) (later : List (Option Value)) :
      FirstGiven default (some value :: later) value
  | passed {later : List (Option Value)} {value : Value} :
      FirstGiven default later value → FirstGiven default (none :: later) value

theorem FirstGiven.over {Value : Type} {default : Value} {later : List (Option Value)}
    {rest : Option Value} (hrest : FirstGiven default later (rest.getD default))
    (layer : Option Value) :
    FirstGiven default (layer :: later) ((layer <|> rest).getD default) := by
  cases layer with
  | none => exact .passed hrest
  | some value => exact .given value later

theorem FirstGiven.last {Value : Type} (default : Value) (layer : Option Value) :
    FirstGiven default [layer] (layer.getD default) := by
  cases layer with
  | none => exact .passed .default
  | some value => exact .given value []

namespace Arguments

/-! ## What reading arguments keeps -/

/-- A property of what arguments have given that no further argument can end. -/
structure Given.Kept (Holds : Given → Prop) : Prop where
  set : ∀ {given next : Given} {option : Valued} {value : String},
    Holds given → given.set option value = .ok next → Holds next
  uncolored : ∀ {given : Given}, Holds given → Holds { given with noColor := true }

variable {Holds : Given → Prop}

namespace Given.Kept

variable (hkept : Given.Kept Holds) {reader next : Reader}

include hkept

theorem settle {given : Given} (hreader : Holds reader.given)
    (hsettle : reader.settle = .ok given) : Holds given := by
  unfold Reader.settle at hsettle
  split at hsettle
  · rw [Except.ok.injEq] at hsettle
    exact hsettle ▸ hreader
  · contradiction
  · exact hkept.set hreader hsettle

theorem name {name : Name} {attached : Option String} (hreader : Holds reader.given)
    (hname : reader.name name attached = .ok next) : Holds next.given := by
  cases hsettle : reader.settle with
  | error error =>
      cases name <;> cases attached <;> simp [Reader.name, hsettle, bind, Except.bind] at hname
  | ok given =>
      have hgiven := hkept.settle hreader hsettle
      cases name with
      | valued option =>
          cases attached with
          | none =>
              simp only [Reader.name, hsettle, bind, Except.bind, pure, Except.pure,
                Except.ok.injEq] at hname
              exact hname ▸ hgiven
          | some value =>
              simp only [Reader.name, hsettle, bind, Except.bind, pure, Except.pure] at hname
              cases hset : given.set option value with
              | error error => simp [hset] at hname
              | ok set =>
                  simp only [hset, Except.ok.injEq] at hname
                  exact hname ▸ hkept.set hgiven hset
      | noColor =>
          cases attached with
          | none =>
              simp only [Reader.name, hsettle, bind, Except.bind, pure, Except.pure] at hname
              split at hname
              · contradiction
              · rw [Except.ok.injEq] at hname
                exact hname ▸ hkept.uncolored hgiven
          | some value => simp [Reader.name] at hname
      | help => cases attached <;> simp [Reader.name, hsettle, bind, Except.bind] at hname
      | version => cases attached <;> simp [Reader.name, hsettle, bind, Except.bind] at hname

theorem long {cs : List Char} (hreader : Holds reader.given)
    (hlong : reader.long cs = .ok next) : Holds next.given := by
  unfold Reader.long at hlong
  cases hname : longName? (String.ofList (cs.takeWhile (· ≠ '='))) with
  | none =>
      simp only [hname] at hlong
      contradiction
  | some name =>
      simp only [hname] at hlong
      exact hkept.name hreader hlong

theorem short {letter : Char} {rest : List Char} (hreader : Holds reader.given)
    (hshort : reader.short letter rest = .ok next) : Holds next.given := by
  unfold Reader.short at hshort
  split at hshort
  · contradiction
  · split at hshort <;> exact hkept.name hreader hshort
  · exact hkept.name hreader hshort

omit hkept in
theorem word {word : String} (hreader : Holds reader.given)
    (hword : reader.word word = .ok next) : Holds next.given := by
  unfold Reader.word at hword
  split at hword
  · rw [Except.ok.injEq] at hword
    exact hword ▸ hreader
  · contradiction

theorem argument {argument : String} (hreader : Holds reader.given)
    (hargument : reader.argument argument = .ok next) : Holds next.given := by
  unfold Reader.argument at hargument
  split at hargument
  · exact hkept.long hreader hargument
  · exact hkept.short hreader hargument
  · exact word hreader hargument

theorem read {arguments : List String} {given : Given} (hreader : Holds reader.given)
    (hread : Arguments.read reader arguments = .ok given) : Holds given := by
  induction arguments generalizing reader with
  | nil => exact hkept.settle hreader hread
  | cons argument rest ih =>
      unfold Arguments.read at hread
      split at hread
      · split at hread
        · exact hkept.settle hreader hread
        · contradiction
      · cases hargument : reader.argument argument with
        | error error => simp [hargument, bind, Except.bind] at hread
        | ok next =>
            simp only [hargument, bind, Except.bind] at hread
            exact ih (hkept.argument hreader hargument) hread

end Given.Kept

theorem modules_ne_nil (value : String) : modules value ≠ [] := by
  simp [modules, List.splitOn_ne_nil]

theorem Given.commandSources_of_set {given next : Given} {option : Valued} {value : String}
    (hset : given.set option value = .ok next) :
    next.commandSources = given.commandSources ∨
      next.commandSources = some (given.commandSources.getD [] ++ modules value) := by
  cases option with
  | commandSource =>
      rw [Given.set, Except.ok.injEq] at hset
      exact Or.inr (hset ▸ rfl)
  | _ =>
      left
      simp only [Given.set, bind, Except.bind, pure, Except.pure] at hset
      split at hset
      · contradiction
      · rw [Except.ok.injEq] at hset
        exact hset ▸ rfl

theorem Given.kept_commandSources :
    Given.Kept fun given => given.commandSources ≠ some [] where
  set {given next option value} hgiven hset := by
    rcases Given.commandSources_of_set hset with hsame | hmore
    · rw [hsame]
      exact hgiven
    · simp [hmore, modules_ne_nil]
  uncolored hgiven := hgiven

end Arguments

/-- The options that arguments and variables spell: of each option the value that an
argument gives, or else its variable, or else its default. -/
structure Options.Spelled (given : Arguments.Given) (env : Arguments.Variables)
    (options : Options) : Prop where
  config : options.config = given.config
  environment : FirstGiven "Production"
    [given.environment, env "REPLCLI_ENVIRONMENT"] options.environment
  appName : FirstGiven none
    [given.appName.map some, (env "REPLCLI_APP_NAME").map some] options.appName
  prompt : FirstGiven none
    [given.prompt.map some, (env "REPLCLI_PROMPT").map some] options.prompt
  commandSources : FirstGiven []
    [given.commandSources, (env "REPLCLI_COMMAND_SOURCES").map Arguments.modules]
    options.commandSources
  noSources_iff : options.commandSources = [] ↔
    given.commandSources = none ∧ env "REPLCLI_COMMAND_SOURCES" = none

theorem FirstGiven.map_some {Value : Type} (first second : Option Value) :
    FirstGiven none [first.map some, second.map some] (first <|> second) := by
  cases first with
  | some value => exact .given (some value) _
  | none =>
      cases second with
      | some value => exact .passed (.given (some value) [])
      | none => exact .passed (.passed .default)

theorem Options.spelled_of_parse {arguments : List String} {env : Arguments.Variables}
    {options : Options} (hparse : Options.parse arguments env = .ok options) :
    ∃ given, Arguments.read {} arguments = .ok given ∧ options.Spelled given env := by
  unfold Options.parse at hparse
  cases hread : Arguments.read {} arguments with
  | error error => simp [hread, bind, Except.bind] at hparse
  | ok given =>
      have hcomplete : given.complete env = options := by
        simpa [hread, bind, Except.bind, pure, Except.pure] using hparse
      have hsome : given.commandSources ≠ some [] :=
        Arguments.Given.kept_commandSources.read (by simp) hread
      refine ⟨given, rfl, ?_⟩
      rw [← hcomplete]
      constructor
      · rfl
      · exact .over (.last _ _) _
      · exact .map_some _ _
      · exact .map_some _ _
      · exact .over (.last _ _) _
      · -- neither the arguments nor the variable can give an empty list
        simp only [Arguments.Given.complete]
        cases hsources : given.commandSources with
        | some sources =>
            rw [hsources] at hsome
            simpa using hsome
        | none => cases env "REPLCLI_COMMAND_SOURCES" <;> simp [Arguments.modules_ne_nil]

/-! ## The color flag among the arguments -/

namespace Arguments

def Given.withNoColor (noColor : Bool) (given : Given) : Given :=
  { given with noColor := noColor }

def Reader.withNoColor (noColor : Bool) (reader : Reader) : Reader :=
  { reader with given := reader.given.withNoColor noColor }

theorem longName?_eq_noColor {name : String} (h : longName? name = some .noColor) :
    name = "no-color" := by
  unfold longName? at h
  split at h <;> simp_all

theorem shortName?_ne_noColor (letter : Char) : shortName? letter ≠ some .noColor := by
  unfold shortName?
  split <;> simp

variable (noColor : Bool)

theorem Given.set_withNoColor (given : Given) (option : Valued) (value : String) :
    (given.withNoColor noColor).set option value =
      (given.set option value).map (Given.withNoColor noColor) := by
  cases option with
  | config =>
      simp only [Given.set, Given.withNoColor]
      cases once given.config (if value.isEmpty then none else some value) <;> rfl
  | environment =>
      simp only [Given.set, Given.withNoColor]
      cases once given.environment (some value) <;> rfl
  | appName =>
      simp only [Given.set, Given.withNoColor]
      cases once given.appName (some value) <;> rfl
  | prompt =>
      simp only [Given.set, Given.withNoColor]
      cases once given.prompt (some value) <;> rfl
  | commandSource => rfl
  | logLevel =>
      simp only [Given.set, Given.withNoColor]
      cases once given.logLevel (severity? value) <;> rfl

namespace Reader

theorem settle_withNoColor (reader : Reader) :
    (reader.withNoColor noColor).settle =
      reader.settle.map (Given.withNoColor noColor) := by
  obtain ⟨given, pending⟩ := reader
  match pending with
  | none => rfl
  | some (_, none) => rfl
  | some (option, some value) => exact given.set_withNoColor noColor option value

theorem name_withNoColor (reader : Reader) {name : Name} {attached : Option String}
    (hname : name = .noColor → attached ≠ none) :
    (reader.withNoColor noColor).name name attached =
      (reader.name name attached).map (Reader.withNoColor noColor) := by
  have hsettle := reader.settle_withNoColor noColor
  cases name with
  | valued option =>
      cases attached with
      | none =>
          simp only [Reader.name, hsettle]
          cases reader.settle <;> rfl
      | some value =>
          simp only [Reader.name, hsettle]
          cases reader.settle with
          | error error => rfl
          | ok given =>
              have hset := given.set_withNoColor noColor option value
              simp only [Except.map, bind, Except.bind, hset]
              cases given.set option value <;> rfl
  | noColor =>
      cases attached with
      | none => exact (hname rfl rfl).elim
      | some value => rfl
  | help =>
      cases attached with
      | none =>
          simp only [Reader.name, hsettle]
          cases reader.settle <;> rfl
      | some value => rfl
  | version =>
      cases attached with
      | none =>
          simp only [Reader.name, hsettle]
          cases reader.settle <;> rfl
      | some value => rfl

theorem word_withNoColor (reader : Reader) (word : String) :
    (reader.withNoColor noColor).word word =
      (reader.word word).map (Reader.withNoColor noColor) := by
  obtain ⟨given, pending⟩ := reader
  match pending with
  | none => rfl
  | some (_, none) => rfl
  | some (_, some _) => rfl

theorem long_withNoColor (reader : Reader) {cs : List Char}
    (hflag : cs ≠ "no-color".toList) :
    (reader.withNoColor noColor).long cs =
      (reader.long cs).map (Reader.withNoColor noColor) := by
  unfold long
  cases hname : longName? (String.ofList (cs.takeWhile (· ≠ '='))) with
  | none =>
      simp only [hname]
      rfl
  | some name =>
      simp only [hname]
      refine reader.name_withNoColor noColor ?_
      rintro rfl
      have hwritten := congrArg String.toList (longName?_eq_noColor hname)
      rw [String.toList_ofList] at hwritten
      cases hrest : cs.dropWhile (· ≠ '=') with
      | nil =>
          have hcs := List.takeWhile_append_dropWhile (p := (· ≠ '=')) (l := cs)
          rw [hwritten, hrest, List.append_nil] at hcs
          exact (hflag hcs.symm).elim
      | cons c value => simp

theorem short_withNoColor (reader : Reader) (letter : Char) (rest : List Char) :
    (reader.withNoColor noColor).short letter rest =
      (reader.short letter rest).map (Reader.withNoColor noColor) := by
  unfold short
  cases hname : shortName? letter with
  | none => rfl
  | some name =>
      cases name with
      | valued option =>
          simp only
          split <;> exact reader.name_withNoColor noColor (by simp)
      | noColor => exact (shortName?_ne_noColor letter hname).elim
      | help => exact reader.name_withNoColor noColor (by simp)
      | version => exact reader.name_withNoColor noColor (by simp)

theorem argument_withNoColor (reader : Reader) {argument : String}
    (hflag : argument ≠ "--no-color") :
    (reader.withNoColor noColor).argument argument =
      (reader.argument argument).map (Reader.withNoColor noColor) := by
  unfold Reader.argument
  split
  · rename_i cs hcs
    refine reader.long_withNoColor noColor ?_
    rintro rfl
    exact hflag (String.toList_injective (by simp [hcs]))
  · exact reader.short_withNoColor noColor _ _
  · exact reader.word_withNoColor noColor argument

end Reader

theorem read_withNoColor (reader : Reader) {arguments : List String}
    (hflag : "--no-color" ∉ arguments) :
    read (reader.withNoColor noColor) arguments =
      (read reader arguments).map (Given.withNoColor noColor) := by
  induction arguments generalizing reader with
  | nil => exact reader.settle_withNoColor noColor
  | cons argument rest ih =>
      rw [List.mem_cons, not_or] at hflag
      unfold read
      split
      · split
        · exact reader.settle_withNoColor noColor
        · rfl
      · rw [reader.argument_withNoColor noColor (Ne.symm hflag.1)]
        cases reader.argument argument with
        | error error => rfl
        | ok next => exact ih next hflag.2

theorem noColor_of_read {arguments : List String} {given : Given}
    (hread : read {} arguments = .ok given) (hflag : "--no-color" ∉ arguments) :
    given.noColor = false := by
  have hsame : read {} arguments = (read {} arguments).map (Given.withNoColor false) :=
    read_withNoColor false {} hflag
  rw [hread, Except.map, Except.ok.injEq] at hsame
  rw [hsame]
  rfl

theorem read_flag_cons {arguments : List String} (hflag : "--no-color" ∉ arguments) :
    read {} ("--no-color" :: arguments) =
      (read {} arguments).map (Given.withNoColor true) :=
  read_withNoColor true {} hflag

end Arguments

def Arguments.Variables.withoutNoColor (env : Arguments.Variables) : Arguments.Variables :=
  fun name => if name = "NO_COLOR" then none else env name

def Options.uncolored (options : Options) : Options :=
  { options with noColor := true }

/-- With the flag in front of the arguments and without the variable, the options
are the same with colors turned off. -/
theorem Options.parse_flag_cons {arguments : List String} (env : Arguments.Variables)
    (hflag : "--no-color" ∉ arguments) :
    Options.parse ("--no-color" :: arguments) env.withoutNoColor =
      (Options.parse arguments env).map Options.uncolored := by
  unfold Options.parse
  rw [Arguments.read_flag_cons hflag]
  cases Arguments.read {} arguments <;> rfl

theorem Options.noColor_of_parse {arguments : List String} {env : Arguments.Variables}
    {options : Options} (hparse : Options.parse arguments env = .ok options)
    (hflag : "--no-color" ∉ arguments) :
    options.noColor = (env "NO_COLOR").any Arguments.isTrue := by
  unfold Options.parse at hparse
  cases hread : Arguments.read {} arguments with
  | error error =>
      rw [hread] at hparse
      contradiction
  | ok given =>
      rw [hread] at hparse
      have hcomplete : given.complete env = options := Except.ok.inj hparse
      have hgiven := Arguments.noColor_of_read hread hflag
      rw [← hcomplete]
      simp [Arguments.Given.complete, hgiven]

end CommandShell
