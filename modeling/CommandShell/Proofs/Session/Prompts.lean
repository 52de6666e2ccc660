import CommandShell.Proofs.CommandLine.Quoting
import CommandShell.Proofs.Program.Dispatch
import CommandShell.Proofs.Session.Order
import CommandShell.Proofs.Text

/-! # The prompts of a session -/

namespace CommandShell

def Call.written? : Call → Option String
  | .write text => some text
  | _ => none

def Transcript.writes (transcript : Transcript Call) : List String :=
  transcript.outputs.filterMap Call.written?

@[simp] theorem Transcript.writes_append (first second : Transcript Call) :
    Transcript.writes (first ++ second) = first.writes ++ second.writes := by
  simp [writes]

theorem Transcript.writes_of_ofCommand {transcript : Transcript Call}
    (hcalls : ∀ call ∈ transcript.outputs, call.OfCommand) : transcript.writes = [] := by
  rw [writes, List.filterMap_eq_nil_iff]
  intro call hmem
  have hcall := hcalls call hmem
  cases call with
  | write text => exact hcall.elim
  | _ => rfl

namespace Prompt

/-- A line asks for a prompt if it spells `prompt` with exactly one argument. -/
def Asks (line argument : String) : Prop :=
  CommandLine.parse? line = some ⟨"prompt", [argument]⟩

/-- The prompt in force once a session with the given settings has handled lines. -/
inductive InForce (settings : Settings) (lines : List String) : String → Prop
  | first :
      (Catalog.promptModule ∉ settings.commandSources ∨
        ∀ line ∈ lines, ∀ argument, ¬ Asks line argument) →
      InForce settings lines settings.prompt
  | asked {earlier later : List String} {line argument kept : String} :
      Catalog.promptModule ∈ settings.commandSources →
      lines = earlier ++ line :: later → Asks line argument →
      (∀ other ∈ later, ∀ otherArgument, ¬ Asks other otherArgument) →
      Text.Trimmed argument kept → InForce settings lines (kept ++ " ")

variable {settings : Settings}

theorem split_concat {lines earlier later : List String} {line last : String}
    (hsplit : lines ++ [line] = earlier ++ last :: later) :
    (lines = earlier ∧ line = last ∧ later = []) ∨
      ∃ init, later = init ++ [line] ∧ lines = earlier ++ last :: init := by
  rcases List.eq_nil_or_concat later with rfl | ⟨init, final, rfl⟩
  · obtain ⟨hlines, hlast⟩ := List.append_inj' hsplit rfl
    exact Or.inl ⟨hlines, List.singleton_inj.mp hlast, rfl⟩
  · have hconcat : lines ++ [line] = (earlier ++ last :: init) ++ [final] := by
      simpa using hsplit
    obtain ⟨hlines, hfinal⟩ := List.append_inj' hconcat rfl
    rw [List.singleton_inj.mp hfinal]
    exact Or.inr ⟨init, by simp, hlines⟩

theorem asks_unique {line first second : String} (hfirst : Asks line first)
    (hsecond : Asks line second) : first = second := by
  rw [Asks, hfirst] at hsecond
  simpa using hsecond

theorem inForce_append_of_asks {lines : List String} {line argument prompt : String}
    (hmodule : Catalog.promptModule ∈ settings.commandSources)
    (hasks : Asks line argument) :
    InForce settings (lines ++ [line]) prompt ↔ prompt = ofArgument argument := by
  constructor
  · intro hforce
    cases hforce with
    | first hnone =>
        rcases hnone with hmissing | hquiet
        · exact (hmissing hmodule).elim
        · exact (hquiet line (by simp) argument hasks).elim
    | @asked earlier later last other kept _ hsplit hother hlater htrimmed =>
        rcases split_concat hsplit with ⟨_, rfl, _⟩ | ⟨init, rfl, _⟩
        · rw [htrimmed.eq_trim, asks_unique hother hasks]
          rfl
        · exact (hlater line (by simp) argument hasks).elim
  · rintro rfl
    exact .asked hmodule rfl hasks (by simp) (Text.trimmed_trim argument)

theorem inForce_append_of_not_asks {lines : List String} {line prompt : String}
    (hline : Catalog.promptModule ∈ settings.commandSources →
      ∀ argument, ¬ Asks line argument) :
    InForce settings (lines ++ [line]) prompt ↔ InForce settings lines prompt := by
  constructor
  · intro hforce
    cases hforce with
    | first hnone =>
        refine .first (hnone.imp_right fun hquiet other hmem => ?_)
        exact hquiet other (List.mem_append_left _ hmem)
    | @asked earlier later last other kept hmodule hsplit hother hlater htrimmed =>
        rcases split_concat hsplit with ⟨_, rfl, _⟩ | ⟨init, rfl, hlines⟩
        · exact (hline hmodule other hother).elim
        · have hinit : ∀ next ∈ init, ∀ argument, ¬ Asks next argument :=
            fun next hmem => hlater next (List.mem_append_left _ hmem)
          exact .asked hmodule hlines hother hinit htrimmed
  · intro hforce
    cases hforce with
    | first hnone =>
        by_cases hmodule : Catalog.promptModule ∈ settings.commandSources
        · refine .first (Or.inr ?_)
          intro other hmem
          rcases List.mem_append.mp hmem with hother | hlast
          · exact hnone.resolve_left (fun hmissing => hmissing hmodule) other hother
          · exact List.mem_singleton.mp hlast ▸ hline hmodule
        · exact .first (Or.inl hmodule)
    | @asked earlier later last other kept hmodule hsplit hother hlater htrimmed =>
        have hlines : lines ++ [line] = earlier ++ last :: (later ++ [line]) := by
          simp [hsplit]
        have hquiet : ∀ next ∈ later ++ [line], ∀ argument, ¬ Asks next argument := by
          intro next hmem
          rcases List.mem_append.mp hmem with hnext | hlast
          · exact hlater next hnext
          · exact List.mem_singleton.mp hlast ▸ hline hmodule
        exact .asked hmodule hlines hother hquiet htrimmed

end Prompt

/-! ## What a session writes -/

namespace Session

section Writes

variable {session : Session Call}

variable (session) in
/-- A recorded session whose commands leave unfinished lines to the session. -/
structure WritesPrompts : Prop where
  console : session.around.console = Console.recorder
  commands : ∀ line state,
    (session.shell.dispatch session.around line state).transcript.writes = []

theorem WritesPrompts.writes_reading (hsession : session.WritesPrompts) (state : State)
    (input : Option Input) : (session.reading state input).writes = [state.prompt] := by
  rw [reading, hsession.console]
  rfl

theorem WritesPrompts.writes_episode (hsession : session.WritesPrompts)
    (line : CommandLine) (state : State) : (session.episode line state).writes = [] := by
  have hcommands := hsession.commands line state
  have hfailure : (session.failureEntries line
      (session.shell.dispatch session.around line state).verdict).writes = [] := by
    cases (session.shell.dispatch session.around line state).verdict with
    | done => rfl
    | exited code => rfl
    | failed failure =>
        rw [failureEntries, hsession.console]
        rfl
  have hepisode : (session.episode line state).writes =
      (session.shell.dispatch session.around line state).transcript.writes ++
        (session.failureEntries line
          (session.shell.dispatch session.around line state).verdict).writes := by
    simp [episode, Transcript.writes]
  rw [hepisode, hcommands, hfailure]
  rfl

theorem WritesPrompts.writes_exchange (hsession : session.WritesPrompts) (state : State)
    (input : Input) : (session.exchange state input).writes = [state.prompt] := by
  cases input with
  | failure message => exact hsession.writes_reading state _
  | interrupt =>
      rw [exchange_interrupt, Transcript.writes_append, hsession.writes_reading]
      rfl
  | line text =>
      cases hline : CommandLine.parse? text with
      | none => rw [exchange_blank session state hline, hsession.writes_reading]
      | some line =>
          rw [exchange_line session state hline, Transcript.writes_append,
            hsession.writes_reading, hsession.writes_episode]
          rfl

theorem WritesPrompts.writes_lastExchange (hsession : session.WritesPrompts)
    (state : State) : (session.lastExchange state).writes = [state.prompt] := by
  have hblank : Transcript.writes
      [.shown (session.around.console.render (.writeLine ""))] = [] := by
    rw [hsession.console]
    rfl
  rw [lastExchange_eq, Transcript.writes_append, Transcript.writes_append,
    hsession.writes_reading, hsession.writes_episode, hblank]
  rfl

theorem open_cons_iff_verdictAfter (state : State) (input : Input) (rest : List Input) :
    session.Open state (input :: rest) ↔
      session.verdictAfter state input = .done ∧
        session.Open (session.stateAfter state input) rest := by
  rw [open_cons_iff]
  constructor
  · rintro ⟨⟨text, rfl⟩, hrest⟩
    exact ⟨session.verdictAfter_line hrest.not_cancelled, hrest⟩
  · rintro ⟨hdone, hrest⟩
    refine ⟨?_, hrest⟩
    cases input with
    | line text => exact ⟨text, rfl⟩
    | failure message => simp [verdictAfter] at hdone
    | interrupt =>
        have hcancelled : (session.stateAfter state .interrupt).cancelled = true := rfl
        rw [hrest.not_cancelled] at hcancelled
        contradiction

/-- The session writes one prompt for each first part of its inputs after which it is
open: the prompt of the state that this part leaves. -/
theorem WritesPrompts.getElem?_writes_loop (hsession : session.WritesPrompts)
    (inputs : List Input) (state : State) (k : Nat) (text : String) :
    (session.loop inputs state).transcript.writes[k]? = some text ↔
      k ≤ inputs.length ∧ session.Open state (inputs.take k) ∧
        (session.after state (inputs.take k)).prompt = text := by
  induction inputs generalizing state k with
  | nil =>
      by_cases hcancelled : state.cancelled = true
      · rw [session.loop_of_cancelled [] hcancelled]
        simp [Run.idle, Transcript.writes, open_nil_iff, hcancelled]
      · rw [loop, if_neg hcancelled, turn_none, hsession.writes_lastExchange]
        cases k with
        | zero => simp [open_nil_iff, hcancelled]
        | succ k => simp
  | cons input rest ih =>
      by_cases hcancelled : state.cancelled = true
      · have hclosed : ∀ first, ¬ session.Open state first := by
          intro first hopen
          rw [hopen.not_cancelled] at hcancelled
          contradiction
        rw [session.loop_of_cancelled _ hcancelled]
        simp [Run.idle, Transcript.writes, hclosed]
      · have hfirst := hsession.writes_exchange state input
        have hstart := (session.open_nil_iff state).mpr (by simpa using hcancelled)
        rw [loop, if_neg hcancelled, turn_some]
        -- the first turn writes its prompt, and any later prompt is one of the rest
        cases k with
        | zero =>
            cases session.verdictAfter state input <;>
              simp [Run.andThen, hfirst, hstart]
        | succ k =>
            rw [List.take_succ_cons, open_cons_iff_verdictAfter, after_cons]
            cases session.verdictAfter state input with
            | done => simp [Run.andThen_done, hfirst, ih]
            | failed failure => simp [Run.andThen, hfirst]
            | exited code => simp [Run.andThen, hfirst]

end Writes

/-! ## Sessions of the program -/

variable (policy : ExitPolicy) (settings : Settings)

theorem prepare_linked_writesPrompts :
    (Session.prepare ⟨Console.recorder, policy⟩ settings
      Catalog.linked).1.WritesPrompts := by
  constructor
  · rfl
  · intro line state
    have hcommands := Session.ofCommand_of_dispatch policy settings line state
    exact Transcript.writes_of_ofCommand hcommands

variable {Output : Type} (around : Surroundings Output)

theorem prompt_stateAfter_of_not_asks {text : String}
    (htext : Catalog.promptModule ∈ settings.commandSources →
      ∀ argument, ¬ Prompt.Asks text argument) (state : State) :
    let session := (Session.prepare around settings Catalog.linked).1
    (session.stateAfter state (.line text)).prompt = state.prompt := by
  intro session
  cases hline : CommandLine.parse? text with
  | none => simp only [stateAfter, hline]
  | some line =>
      have hquiet : (session.shell.table.get? "prompt").isSome →
          ∀ argument, line ≠ ⟨"prompt", [argument]⟩ := by
        intro hfound argument hsame
        obtain ⟨handler, hhandler⟩ := Option.isSome_iff_exists.mp hfound
        have hmodule := ((get?_prompt around settings handler).mp hhandler).1
        rw [hsame] at hline
        exact htext hmodule argument hline
      have hhandlers := @mem_commands_of_mem_handlers _ around settings
      simp only [stateAfter, hline]
      exact Shell.prompt_dispatch (fun _ => hhandlers) hquiet state

theorem prompt_stateAfter_of_asks {text argument : String}
    (hmodule : Catalog.promptModule ∈ settings.commandSources)
    (hasks : Prompt.Asks text argument) (state : State) :
    let session := (Session.prepare around settings Catalog.linked).1
    (session.stateAfter state (.line text)).prompt = Prompt.ofArgument argument := by
  intro session
  have hfound := (get?_prompt around settings Prompt.handler).mpr ⟨hmodule, rfl⟩
  have hline : CommandLine.parse? text = some ⟨"prompt", [argument]⟩ := hasks
  simp only [stateAfter, hline]
  exact Shell.prompt_dispatch_prompt hfound argument state

theorem inForce_after_iff (cancelled : Bool) (lines : List String) (prompt : String) :
    let session := (Session.prepare around settings Catalog.linked).1
    Prompt.InForce settings lines prompt ↔
      (session.after (session.initialState cancelled) (lines.map .line)).prompt =
        prompt := by
  intro session
  induction lines using List.reverseRecOn generalizing prompt with
  | nil =>
      constructor
      · intro hforce
        cases hforce with
        | first _ => rfl
        | asked _ hsplit _ _ _ => simp at hsplit
      · rintro rfl
        exact .first (Or.inr (by simp))
  | append_singleton init text ih =>
      rw [List.map_append, after_append, List.map_singleton, after_cons, after_nil]
      by_cases hasks : Catalog.promptModule ∈ settings.commandSources ∧
          ∃ argument, Prompt.Asks text argument
      · obtain ⟨hmodule, argument, hargument⟩ := hasks
        rw [Prompt.inForce_append_of_asks hmodule hargument,
          prompt_stateAfter_of_asks settings around hmodule hargument, eq_comm]
      · have hquiet : Catalog.promptModule ∈ settings.commandSources →
            ∀ argument, ¬ Prompt.Asks text argument :=
          fun hmodule argument hargument => hasks ⟨hmodule, argument, hargument⟩
        rw [Prompt.inForce_append_of_not_asks hquiet, ih,
          prompt_stateAfter_of_not_asks settings around hquiet]

/-- What a session of the program writes without ending the line are its prompts: for
each number of lines after which it is still open, the prompt in force after so many
lines.  A line that does not ask for a prompt leaves the prompt alone, whatever else it
is. -/
theorem runFrom_writes_prompts_in_force (cancelled : Bool) (lines : List String) :
    let session := (Session.prepare ⟨Console.recorder, policy⟩ settings Catalog.linked).1
    let start := session.initialState cancelled
    let run := Session.runFrom ⟨Console.recorder, policy⟩ settings Catalog.linked
      cancelled (lines.map .line)
    (∀ k text, run.transcript.writes[k]? = some text ↔
      k ≤ lines.length ∧ session.Open start ((lines.take k).map .line) ∧
        Prompt.InForce settings (lines.take k) text) ∧
    ∀ state text, (∀ argument, ¬ Prompt.Asks text argument) →
      (session.stateAfter state (.line text)).prompt = state.prompt := by
  intro session start run
  have hsession : session.WritesPrompts := prepare_linked_writesPrompts policy settings
  have hrun : run = session.enclose
      (Session.prepare ⟨Console.recorder, policy⟩ settings Catalog.linked).2
      (session.loop (lines.map .line) start) :=
    Session.runFrom_eq _ settings Catalog.linked cancelled (lines.map .line)
  have hwrites : run.transcript.writes =
      (session.loop (lines.map .line) start).transcript.writes := by
    have hpreface : (session.preface (Session.prepare ⟨Console.recorder, policy⟩ settings
        Catalog.linked).2).writes = [] := by
      rw [Transcript.writes, outputs_preface]
      rfl
    have hclosing : ∀ log : List LogRecord,
        Transcript.writes (log.map .logged) = [] := by
      simp [Transcript.writes]
    rw [hrun]
    simp [enclose, hpreface, hclosing]
  constructor
  · intro k text
    have hforce : Prompt.InForce settings (lines.take k) text ↔
        (session.after start ((lines.take k).map .line)).prompt = text :=
      inForce_after_iff settings _ cancelled (lines.take k) text
    rw [hwrites, hsession.getElem?_writes_loop, hforce, List.length_map, List.map_take]
  · intro state text hquiet
    exact prompt_stateAfter_of_not_asks settings _ (fun _ => hquiet) state

end Session

/-! ## Prompts that were entered -/

namespace Prompt

theorem trimmed_ofArgument (argument : String) :
    Text.Trimmed (ofArgument argument) (Text.trim argument) := by
  obtain ⟨_, _, _, _, _, hhead, hlast⟩ := Text.trimmed_trim argument
  have hspace : ∀ c ∈ " ".toList, Text.isBlank c = true := by
    intro c hc
    rw [List.mem_singleton.mp hc]
    rfl
  refine ⟨"", " ", ?_, by simp, hspace, hhead, hlast⟩
  rw [ofArgument, String.empty_append]

theorem ofArgument_ofArgument (argument : String) :
    ofArgument (ofArgument argument) = ofArgument argument := by
  have htrim : Text.trim (ofArgument argument) = Text.trim argument :=
    (trimmed_ofArgument argument).eq_trim.symm
  rw [ofArgument, htrim, ofArgument]

theorem quote_not_mem_ofArgument {argument : String} (hargument : '"' ∉ argument.toList) :
    '"' ∉ (ofArgument argument).toList := by
  obtain ⟨before, after, hsplit, _⟩ := Text.trimmed_trim argument
  intro hmem
  have hkept : '"' ∈ (Text.trim argument).toList := by
    simpa [ofArgument] using hmem
  apply hargument
  rw [hsplit]
  simp [hkept]

theorem ofArgument_eq_space {argument : String} {c : Char}
    (hhead : c ∈ (ofArgument argument).toList.head?) (hblank : Text.isBlank c = true) :
    ofArgument argument = " " := by
  obtain ⟨_, _, _, _, _, hkept, _⟩ := Text.trimmed_trim argument
  rw [ofArgument, String.toList_append] at hhead
  cases hchars : (Text.trim argument).toList with
  | nil =>
      have hempty : Text.trim argument = "" := String.toList_eq_nil_iff.mp hchars
      rw [ofArgument, hempty, String.empty_append]
  | cons first rest =>
      have hfirst : c ∈ (Text.trim argument).toList.head? := by
        rw [hchars] at hhead ⊢
        exact hhead
      exact (Bool.false_ne_true ((hkept c hfirst).symm.trans hblank)).elim

def quotedLine (prompt : String) : String :=
  "prompt \"" ++ prompt ++ "\""

theorem asks_quotedLine {prompt : String} (hprompt : '"' ∉ prompt.toList) :
    Asks (quotedLine prompt) prompt := by
  have hchars : (quotedLine prompt).toList =
      "prompt ".toList ++ '"' :: (prompt.toList ++ '"' :: []) := by
    simp [quotedLine]
  have htokens : Token.ofLine (quotedLine prompt).toList =
      ["prompt".toList, prompt.toList] := by
    -- the blank ends the word, so the span is scanned as a line of its own
    rw [hchars, Token.ofLine, Token.scan_append]
    have hspan := Token.ofLine_quoted_append [] hprompt
    exact congrArg (["prompt".toList] ++ ·) hspan
  rw [Asks, CommandLine.parse?_eq_some_iff, tokenize, htokens]
  simp

theorem quote_not_mem_of_asks {text argument : String} (hasks : Asks text argument) :
    '"' ∉ argument.toList := by
  have htoken : argument ∈ tokenize text := by
    rw [CommandLine.parse?_eq_some_iff.mp hasks]
    simp
  exact Token.quote_not_mem_of_mem_tokenize htoken

end Prompt

variable {Output : Type}

theorem Shell.dispatch_prompt {shell : Shell}
    (hfound : shell.table.get? "prompt" = some Prompt.handler)
    (around : Surroundings Output) (argument : String) (state : State) :
    shell.dispatch around ⟨"prompt", [argument]⟩ state =
      ⟨[.logged (.handling "prompt"),
          .logged (.promptChanged (Prompt.ofArgument argument))],
        { state with prompt := Prompt.ofArgument argument }, .done⟩ := by
  have hreserved : "prompt" ∉ ["help", "?"] := by decide
  rw [Shell.dispatch_handler around state hreserved hfound]
  rfl

namespace Session

variable {session : Session Output} {text argument : String}

theorem stateAfter_of_asks (hfound : session.shell.table.get? "prompt" = some Prompt.handler)
    (hasks : Prompt.Asks text argument) (state : State) :
    session.stateAfter state (.line text) =
      { state with prompt := Prompt.ofArgument argument } := by
  have hline : CommandLine.parse? text = some ⟨"prompt", [argument]⟩ := hasks
  simp only [stateAfter, hline]
  rw [Shell.dispatch_prompt hfound]

theorem outputs_exchange_of_asks
    (hfound : session.shell.table.get? "prompt" = some Prompt.handler)
    (hasks : Prompt.Asks text argument) (state : State) :
    (session.exchange state (.line text)).outputs =
      [session.around.console.render (.write state.prompt)] := by
  rw [exchange_line session state hasks, episode, Shell.dispatch_prompt hfound]
  rfl

section Idle

variable {state : State} {input : Input}

theorem after_replicate (hsame : session.stateAfter state input = state) (times : Nat) :
    session.after state (List.replicate times input) = state := by
  induction times with
  | zero => rfl
  | succ times ih => rw [List.replicate_succ, after_cons, hsame, ih]

theorem outputs_account_replicate (hsame : session.stateAfter state input = state)
    (times : Nat) :
    (session.account state (List.replicate times input)).outputs =
      (List.replicate times (session.exchange state input).outputs).flatten := by
  induction times with
  | zero => rfl
  | succ times ih =>
      rw [List.replicate_succ, account, hsame, Transcript.outputs_append, ih,
        List.replicate_succ, List.flatten_cons]

end Idle

/-- Once a line has set the prompt in a session that has the prompt command, the prompt
holds no quote, is the trimmed argument with one space after it, and begins with a blank
only if it is this space.  Entered between quotes, as often as one likes, it leaves the
state of the session as it is, and all that the console shows of it is the prompt before
each read, since the command writes nothing. -/
theorem entered_prompt_is_fixed {session : Session Output} {start : State}
    {earlier : List Input} {text argument : String}
    (hfound : session.shell.table.get? "prompt" = some Prompt.handler)
    (hopen : session.Open start earlier)
    (hline : CommandLine.parse? text = some ⟨"prompt", [argument]⟩) :
    let entered := session.after start (earlier ++ [.line text])
    let again : Input := .line ("prompt \"" ++ entered.prompt ++ "\"")
    '"' ∉ entered.prompt.toList ∧
    (∃ kept, Text.Trimmed argument kept ∧ entered.prompt = kept ++ " ") ∧
    (∀ c ∈ entered.prompt.toList.head?, Text.isBlank c = true → entered.prompt = " ") ∧
    (∀ asked state, (session.shell.dispatch session.around ⟨"prompt", [asked]⟩
      state).transcript.outputs = []) ∧
    ∀ times,
      session.after entered (List.replicate times again) = entered ∧
      (session.account entered (List.replicate times again)).outputs =
        List.replicate times (session.around.console.render (.write entered.prompt)) ∧
      ∀ later,
        session.loop (earlier ++ [.line text] ++ List.replicate times again ++ later) start =
          (Run.mk (session.account start (earlier ++ [.line text]) ++
            session.account entered (List.replicate times again)) entered .done).andThen
              (session.loop later) := by
  intro entered again
  have hentered : entered = { session.after start earlier with
      prompt := Prompt.ofArgument argument } := by
    have hstate := stateAfter_of_asks hfound hline (session.after start earlier)
    rw [← hstate]
    exact session.after_append start earlier [.line text]
  have hprompt : entered.prompt = Prompt.ofArgument argument := by
    rw [hentered]
  have hquote : '"' ∉ entered.prompt.toList := by
    rw [hprompt]
    exact Prompt.quote_not_mem_ofArgument (Prompt.quote_not_mem_of_asks hline)
  have hagain : Prompt.Asks ("prompt \"" ++ entered.prompt ++ "\"") entered.prompt :=
    Prompt.asks_quotedLine hquote
  have hsame : session.stateAfter entered again = entered := by
    rw [stateAfter_of_asks hfound hagain, hprompt, Prompt.ofArgument_ofArgument, ← hprompt]
  have hafter := after_replicate hsame
  have hlines : session.Open start (earlier ++ [.line text]) := by
    refine (session.open_append_iff start earlier _).mpr ⟨hopen, by simp, ?_⟩
    rw [after_cons, after_nil, stateAfter_of_asks hfound hline]
    exact hopen.2
  refine ⟨hquote, ⟨Text.trim argument, Text.trimmed_trim argument, hprompt⟩, ?_, ?_, ?_⟩
  · intro c hhead hblank
    rw [hprompt] at hhead ⊢
    exact Prompt.ofArgument_eq_space hhead hblank
  · intro asked state
    rw [Shell.dispatch_prompt hfound]
    rfl
  · intro times
    have hrepeated : session.Open start
        (earlier ++ [.line text] ++ List.replicate times again) := by
      refine (session.open_append_iff start _ _).mpr ⟨hlines, ?_, ?_⟩
      · intro input hmem
        exact ⟨_, List.eq_of_mem_replicate hmem⟩
      · rw [hafter]
        exact hlines.2
    have hleft : session.after start
        (earlier ++ [.line text] ++ List.replicate times again) = entered := by
      rw [after_append]
      exact hafter times
    refine ⟨hafter times, ?_, ?_⟩
    · rw [outputs_account_replicate hsame, outputs_exchange_of_asks hfound hagain]
      exact List.flatten_replicate_singleton
    · intro later
      rw [loop_append later hrepeated, account_append, hleft]

theorem entered_prompt_of_padded_argument :
    let session := (Session.prepare ⟨Console.recorder, .cancelToken⟩
      { commandSources := [Catalog.promptModule] } Catalog.linked).1
    let entered : State := { prompt := "a b " }
    session.shell.table.get? "prompt" = some Prompt.handler ∧
    session.Open (session.initialState false) [] ∧
    CommandLine.parse? "prompt \"  a b \"" = some ⟨"prompt", ["  a b "]⟩ ∧
    ∀ times, session.after entered (List.replicate times (.line "prompt \"a b \"")) = entered := by
  intro session entered
  have hfound : session.shell.table.get? "prompt" = some Prompt.handler :=
    (get?_prompt _ _ Prompt.handler).mpr ⟨by simp, rfl⟩
  have hopen : session.Open (session.initialState false) [] :=
    (session.open_nil_iff _).mpr rfl
  have hline : CommandLine.parse? "prompt \"  a b \"" = some ⟨"prompt", ["  a b "]⟩ := by
    decide
  refine ⟨hfound, hopen, hline, fun times => ?_⟩
  exact ((entered_prompt_is_fixed hfound hopen hline).2.2.2.2 times).1

end Session

end CommandShell
