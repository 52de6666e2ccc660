import Mathlib.Data.List.Basic
import CommandShell.Console
import CommandShell.Proofs.Text

/-!
# Colored output

Terminals differ only in how they write colored calls, and erasing the sequences `ESC[...m`
undoes the coloring of plain texts.
-/

namespace CommandShell

def Call.color? : Call → Option Color
  | .writeColored _ color => some color
  | .writeLineColored _ color => some color
  | .warning _ => some Color.warning
  | .error _ => some Color.error
  | _ => none

namespace Terminal

def writeAll (terminal : Terminal) (calls : List Call) : String :=
  String.join (calls.map terminal.write)

theorem writeAll_cons (terminal : Terminal) (call : Call) (rest : List Call) :
    terminal.writeAll (call :: rest) = terminal.write call ++ terminal.writeAll rest := by
  rw [writeAll, List.map_cons, String.join_cons, writeAll]

variable {plain styled : Terminal}

theorem colored_of_colors_false (hplain : plain.colors = false) (text : String)
    (color : Color) : plain.colored text color = text := by
  simp [colored, hplain]

theorem write_eq_of_color?_none {call : Call} (first second : Terminal)
    (hcall : call.color? = none) : first.write call = second.write call := by
  cases call with
  | writeColored text color => simp [Call.color?] at hcall
  | writeLineColored text color => simp [Call.color?] at hcall
  | warning text => simp [Call.color?] at hcall
  | error text => simp [Call.color?] at hcall
  | title text => rfl
  | write text => rfl
  | writeLine text => rfl
  | clear => rfl

theorem write_eq_of_colors_false {first second : Terminal}
    (hfirst : first.colors = false) (hsecond : second.colors = false) :
    first.write = second.write := by
  funext call
  cases call <;>
    simp only [write, colored_of_colors_false hfirst, colored_of_colors_false hsecond]

theorem length_lt_length_colored (hstyled : styled.colors = true) (text : String)
    (color : Color) : text.length < (styled.colored text color).length := by
  have hreset : reset.length = 4 := rfl
  have hcolored : styled.colored text color = styled.foreground color ++ text ++ reset := by
    simp [colored, hstyled]
  rw [hcolored, String.length_append, String.length_append, hreset]
  omega

theorem length_write_lt {call : Call} (hplain : plain.colors = false)
    (hstyled : styled.colors = true) (hcall : call.color? ≠ none) :
    (plain.write call).length < (styled.write call).length := by
  have hlonger := length_lt_length_colored hstyled
  cases call with
  | title text => exact (hcall rfl).elim
  | write text => exact (hcall rfl).elim
  | writeLine text => exact (hcall rfl).elim
  | clear => exact (hcall rfl).elim
  | writeColored text color =>
      rw [write, write, colored_of_colors_false hplain]
      exact hlonger text color
  | writeLineColored text color =>
      rw [write, write, colored_of_colors_false hplain, String.length_append,
        String.length_append]
      exact Nat.add_lt_add_right (hlonger text color) _
  | warning text =>
      rw [write, write, colored_of_colors_false hplain, String.length_append,
        String.length_append]
      exact Nat.add_lt_add_right (hlonger text _) _
  | error text =>
      rw [write, write, colored_of_colors_false hplain, String.length_append,
        String.length_append]
      exact Nat.add_lt_add_right (hlonger text _) _

theorem length_writeAll_cons (terminal : Terminal) (call : Call) (rest : List Call) :
    (terminal.writeAll (call :: rest)).length =
      (terminal.write call).length + (terminal.writeAll rest).length := by
  rw [writeAll_cons, String.length_append]

theorem length_writeAll_le (hplain : plain.colors = false)
    (hstyled : styled.colors = true) (calls : List Call) :
    (plain.writeAll calls).length ≤ (styled.writeAll calls).length := by
  induction calls with
  | nil => exact Nat.le_refl _
  | cons call rest ih =>
      rw [length_writeAll_cons, length_writeAll_cons]
      by_cases hcall : call.color? = none
      · rw [write_eq_of_color?_none plain styled hcall]
        omega
      · have hlonger := length_write_lt hplain hstyled hcall
        omega

theorem writeAll_eq_iff (hplain : plain.colors = false) (hstyled : styled.colors = true)
    (calls : List Call) :
    styled.writeAll calls = plain.writeAll calls ↔
      ∀ call ∈ calls, call.color? = none := by
  constructor
  · intro hsame
    induction calls with
    | nil => simp
    | cons call rest ih =>
        have hlength := congrArg String.length hsame
        have hrest := length_writeAll_le hplain hstyled rest
        rw [length_writeAll_cons, length_writeAll_cons] at hlength
        have hcall : call.color? = none := by
          refine Decidable.byContradiction fun hcolored => ?_
          have hlonger := length_write_lt hplain hstyled hcolored
          omega
        have htail : styled.writeAll rest = plain.writeAll rest := by
          rw [writeAll, writeAll, List.map_cons, List.map_cons, String.join_cons,
            String.join_cons, write_eq_of_color?_none styled plain hcall] at hsame
          exact String.append_right_inj _ |>.mp hsame
        intro other hmem
        rcases List.mem_cons.mp hmem with rfl | hother
        · exact hcall
        · exact ih htail other hother
  · intro hnone
    have hwrite : calls.map styled.write = calls.map plain.write :=
      List.map_congr_left fun call hmem =>
        write_eq_of_color?_none styled plain (hnone call hmem)
    rw [writeAll, writeAll, hwrite]

end Terminal

/-! ## Erasing colors -/

namespace Terminal

def isParameter (c : Char) : Bool := c.isDigit || c == ';'

def afterGraphics? : List Char → Option (List Char)
  | '\x1b' :: '[' :: rest =>
    match rest.dropWhile isParameter with
    | 'm' :: after => some after
    | _ => none
  | _ => none

theorem length_afterGraphics?_lt {cs after : List Char}
    (hafter : afterGraphics? cs = some after) : after.length < cs.length := by
  unfold afterGraphics? at hafter
  split at hafter
  · next rest =>
      have hlength := (List.dropWhile_sublist isParameter (l := rest)).length_le
      split at hafter
      · next tail hdrop =>
          cases hafter
          rw [hdrop, List.length_cons] at hlength
          simp only [List.length_cons]
          omega
      · cases hafter
  · cases hafter

/-- Deletes the sequences `ESC[...m`. -/
def eraseGraphics (cs : List Char) : List Char :=
  match cs with
  | [] => []
  | c :: rest =>
    match _ : afterGraphics? (c :: rest) with
    | some after => eraseGraphics after
    | none => c :: eraseGraphics rest
termination_by cs.length
decreasing_by
  · exact length_afterGraphics?_lt ‹_›
  · exact Nat.lt_succ_self _

def erase (text : String) : String :=
  String.ofList (eraseGraphics text.toList)

theorem eraseGraphics_of_some {cs after : List Char}
    (hafter : afterGraphics? cs = some after) : eraseGraphics cs = eraseGraphics after := by
  cases cs with
  | nil => cases hafter
  | cons c rest =>
      rw [eraseGraphics]
      split
      · next other hother => rw [Option.some.inj (hother.symm.trans hafter)]
      · next hnone => cases hnone.symm.trans hafter

theorem eraseGraphics_cons_of_none {c : Char} {rest : List Char}
    (hnone : afterGraphics? (c :: rest) = none) :
    eraseGraphics (c :: rest) = c :: eraseGraphics rest := by
  rw [eraseGraphics]
  split
  · next after hafter => cases hnone.symm.trans hafter
  · rfl

theorem afterGraphics?_eq_none_of_ne {c : Char} {rest : List Char} (hc : c ≠ '\x1b') :
    afterGraphics? (c :: rest) = none := by
  unfold afterGraphics?
  split
  · next heq => exact absurd (List.cons.inj heq).1 hc
  · rfl

theorem afterGraphics?_sequence {ps : List Char} (hps : ∀ c ∈ ps, isParameter c = true)
    (rest : List Char) : afterGraphics? ('\x1b' :: '[' :: (ps ++ 'm' :: rest)) = some rest := by
  have hdrop : (ps ++ 'm' :: rest).dropWhile isParameter = 'm' :: rest := by
    rw [List.dropWhile_append_of_pos hps]
    rfl
  simp only [afterGraphics?, hdrop]

theorem eraseGraphics_append_of_notMem {cs : List Char} (hcs : '\x1b' ∉ cs)
    (rest : List Char) : eraseGraphics (cs ++ rest) = cs ++ eraseGraphics rest := by
  induction cs with
  | nil => rfl
  | cons c cs ih =>
      rw [List.mem_cons, not_or] at hcs
      obtain ⟨hc, hcs⟩ := hcs
      have hnone : afterGraphics? (c :: (cs ++ rest)) = none :=
        afterGraphics?_eq_none_of_ne (Ne.symm hc)
      rw [List.cons_append, eraseGraphics_cons_of_none hnone, ih hcs, List.cons_append]

theorem erase_append_of_plain {text : String} (htext : Text.Plain text) (rest : String) :
    erase (text ++ rest) = text ++ erase rest := by
  apply String.toList_inj.mp
  simp only [erase, String.toList_append, String.toList_ofList]
  exact eraseGraphics_append_of_notMem htext rest.toList

def AreParameters (parameters : String) : Prop :=
  ∀ c ∈ parameters.toList, isParameter c = true

instance (parameters : String) : Decidable (AreParameters parameters) :=
  decidable_of_iff (parameters.toList.all isParameter = true) List.all_eq_true

theorem toList_graphics (parameters : String) :
    (graphics parameters).toList = '\x1b' :: '[' :: (parameters.toList ++ ['m']) := by
  simp [graphics, escape]

theorem erase_graphics_append {parameters : String} (hparameters : AreParameters parameters)
    (rest : String) : erase (graphics parameters ++ rest) = erase rest := by
  have hchars : (graphics parameters ++ rest).toList =
      '\x1b' :: '[' :: (parameters.toList ++ 'm' :: rest.toList) := by
    simp [toList_graphics]
  rw [erase, hchars, eraseGraphics_of_some (afterGraphics?_sequence hparameters _), erase]

theorem AreParameters.append {first second : String} (hfirst : AreParameters first)
    (hsecond : AreParameters second) : AreParameters (first ++ second) := by
  intro c hc
  rw [String.toList_append, List.mem_append] at hc
  exact hc.elim (hfirst c) (hsecond c)

theorem areParameters_toString (n : Nat) : AreParameters (toString n) := by
  intro c hc
  rw [Nat.toString_eq_repr, Nat.repr, String.toList_ofList] at hc
  rw [isParameter, Nat.isDigit_of_mem_toDigits (by decide) (by decide) hc, Bool.true_or]

theorem areParameters_parameters (color : Color) : AreParameters (parameters color) := by
  have hseparator : AreParameters ";" := by decide
  cases color with
  | rgb red green blue =>
      have htrue : AreParameters "38;2;" := by decide
      exact ((((htrue.append (areParameters_toString _)).append hseparator).append
        (areParameters_toString _)).append hseparator).append (areParameters_toString _)
  | indexed index =>
      have hpalette : AreParameters "38;5;" := by decide
      exact hpalette.append (areParameters_toString _)
  | _ => decide

theorem areParameters_foreground (terminal : Terminal) (color : Color) :
    ∃ chosen, AreParameters chosen ∧ terminal.foreground color = graphics chosen := by
  rw [foreground]
  split
  · exact ⟨"", by decide, rfl⟩
  · exact ⟨parameters color, areParameters_parameters color, rfl⟩

end Terminal

namespace Call

/-- The calls that write a text, that is all but those that set the title and clear the
display. -/
def Writes : Call → Prop
  | title _ => False
  | clear => False
  | _ => True

def text : Call → String
  | title text => text
  | write text => text
  | writeColored text _ => text
  | writeLine text => text
  | writeLineColored text _ => text
  | warning text => text
  | error text => text
  | clear => ""

/-- What comes after the text, on the ordinary channel in no color. -/
def ending : Call → String
  | writeLine _ => "\n"
  | writeLineColored _ _ => "\n"
  | warning _ => "\n"
  | error _ => "\n"
  | _ => ""

theorem plainText_of_writes {call : Call} (hwrites : call.Writes) :
    call.plainText = call.text ++ call.ending := by
  cases call with
  | title text => exact hwrites.elim
  | clear => exact hwrites.elim
  | write text => exact (String.append_empty).symm
  | writeColored text color => exact (String.append_empty).symm
  | _ => rfl

theorem plain_iff {call : Call} : call.Plain ↔ call.Writes ∧ Text.Plain call.text := by
  cases call <;> simp [Plain, Writes, text]

theorem ending_eq (call : Call) : call.ending = "" ∨ call.ending = "\n" := by
  cases call <;> simp [ending]

theorem plain_ending (call : Call) : Text.Plain call.ending := by
  rcases call.ending_eq with hending | hending <;> rw [hending] <;> decide

end Call

namespace Terminal

theorem write_of_writes (terminal : Terminal) {call : Call} (hwrites : call.Writes) :
    terminal.write call =
      call.color?.elim call.text (terminal.colored call.text) ++ call.ending := by
  cases call with
  | title text => exact hwrites.elim
  | clear => exact hwrites.elim
  | write text => exact (String.append_empty).symm
  | writeColored text color => exact (String.append_empty).symm
  | _ => rfl

theorem write_eq_plainText {terminal : Terminal} (hcolors : terminal.colors = false)
    {call : Call} (hwrites : call.Writes) : terminal.write call = call.plainText := by
  rw [write_of_writes terminal hwrites, Call.plainText_of_writes hwrites]
  cases call.color? with
  | none => rfl
  | some color => rw [Option.elim_some, colored_of_colors_false hcolors]

theorem erase_colored_append (terminal : Terminal) {text : String}
    (htext : Text.Plain text) (color : Color) (rest : String) :
    erase (terminal.colored text color ++ rest) = text ++ erase rest := by
  rw [colored]
  split
  · obtain ⟨chosen, hchosen, hforeground⟩ := areParameters_foreground terminal color
    have hzero : AreParameters "0" := by decide
    calc
      erase (terminal.foreground color ++ text ++ reset ++ rest) =
          erase (graphics chosen ++ (text ++ (graphics "0" ++ rest))) := by
            rw [hforeground, reset, String.append_assoc, String.append_assoc]
      _ = text ++ erase (graphics "0" ++ rest) := by
            rw [erase_graphics_append hchosen, erase_append_of_plain htext]
      _ = text ++ erase rest := by rw [erase_graphics_append hzero]
  · exact erase_append_of_plain htext rest

theorem erase_write_append (terminal : Terminal) {call : Call} (hcall : call.Plain)
    (rest : String) : erase (terminal.write call ++ rest) = call.plainText ++ erase rest := by
  obtain ⟨hwrites, htext⟩ := Call.plain_iff.mp hcall
  have hending := erase_append_of_plain call.plain_ending rest
  rw [write_of_writes terminal hwrites, Call.plainText_of_writes hwrites,
    String.append_assoc, String.append_assoc]
  cases call.color? with
  | none => rw [Option.elim_none, erase_append_of_plain htext, hending]
  | some color => rw [Option.elim_some, erase_colored_append terminal htext, hending]

/-- Erasing what any terminal writes for plain calls leaves their texts. -/
theorem erase_writeAll (terminal : Terminal) {calls : List Call}
    (hplain : ∀ call ∈ calls, call.Plain) :
    erase (terminal.writeAll calls) = String.join (calls.map Call.plainText) := by
  induction calls with
  | nil => simp [writeAll, erase, eraseGraphics]
  | cons call rest ih =>
      have hrest := ih fun other hmem => hplain other (List.mem_cons_of_mem call hmem)
      rw [writeAll_cons, erase_write_append terminal (hplain call (by simp)), hrest,
        List.map_cons, String.join_cons]

end Terminal

namespace Recording

theorem calls_foldl_record (recording : Recording) (calls : List Call) :
    (calls.foldl record recording).calls = recording.calls ++ calls := by
  induction calls generalizing recording with
  | nil => simp
  | cons call rest ih => rw [List.foldl_cons, ih, record]; simp

end Recording

/-! ## Resets -/

namespace Terminal

theorem exists_eq_append_cons {α : Type} {separator : α} {opening closing body after : List α}
    (hbody : separator ∉ body) (hsplit : opening ++ separator :: closing = body ++ after) :
    ∃ middle, after = middle ++ separator :: closing := by
  rcases List.append_eq_append_iff.mp hsplit with ⟨more, hmore, hafter⟩ | ⟨more, -, hafter⟩
  · cases more with
    | nil => exact ⟨[], hafter.symm⟩
    | cons c more =>
        obtain rfl : separator = c := (List.cons.inj hafter).1
        exact (hbody (by simp [hmore])).elim
  · exact ⟨more, hafter⟩

theorem first_or_second_piece {α : Type} {separator : α}
    {opening closing before body after : List α}
    (hopening : separator ∉ opening) (hclosing : separator ∉ closing)
    (hbody : separator ∉ body)
    (hsplit : separator :: (opening ++ separator :: closing) =
      before ++ separator :: (body ++ after)) :
    (∃ middle, after = middle ++ separator :: closing) ∨ closing = body ++ after := by
  cases before with
  | nil => exact Or.inl (exists_eq_append_cons hbody (List.cons.inj hsplit).2)
  | cons c before =>
      have hrest := (List.cons.inj hsplit).2
      exact Or.inr ((List.append_cons_inj_of_notMem hopening hclosing).mp hrest).2.2

def SetsColor (sequence : String) : Prop :=
  ∃ parameters, AreParameters parameters ∧ parameters ≠ "0" ∧ sequence = graphics parameters

theorem escape_notMem_of_areParameters {parameters : String}
    (hparameters : AreParameters parameters) : '\x1b' ∉ parameters.toList := by
  intro hmem
  exact absurd (hparameters '\x1b' hmem) (by decide)

theorem reset_of_setsColor {chosen text ending before sequence after : String}
    (hchosen : AreParameters chosen) (htext : Text.Plain text)
    (hending : ending = "" ∨ ending = "\n") (hsequence : SetsColor sequence)
    (hsplit : graphics chosen ++ text ++ reset ++ ending = before ++ sequence ++ after) :
    ∃ middle, after = middle ++ reset ++ ending := by
  obtain ⟨parameters, hparameters, hzero, rfl⟩ := hsequence
  let opening : List Char := '[' :: (chosen.toList ++ 'm' :: text.toList)
  let closing : List Char := '[' :: '0' :: 'm' :: ending.toList
  let body : List Char := '[' :: (parameters.toList ++ ['m'])
  have hchars : '\x1b' :: (opening ++ '\x1b' :: closing) =
      before.toList ++ '\x1b' :: (body ++ after.toList) := by
    have hlist := congrArg String.toList hsplit
    simpa [toList_graphics, reset, opening, closing, body] using hlist
  have hopening : '\x1b' ∉ opening := by
    have hrest : '\x1b' ∉ text.toList := htext
    simp [opening, escape_notMem_of_areParameters hchosen, hrest]
  have hclosing : '\x1b' ∉ closing := by
    rcases hending with rfl | rfl <;> decide
  have hbody : '\x1b' ∉ body := by
    simp [body, escape_notMem_of_areParameters hparameters]
  rcases first_or_second_piece hopening hclosing hbody hchars with
    ⟨middle, hmiddle⟩ | hreset
  · refine ⟨String.ofList middle, String.toList_inj.mp ?_⟩
    simpa [reset, toList_graphics] using hmiddle
  · -- the second piece is the reset, which has other parameters
    have hm : 'm' ∉ ['0'] ∧ 'm' ∉ ending.toList := by
      rcases hending with rfl | rfl <;> decide
    have hdigits : ['0'] ++ 'm' :: ending.toList =
        parameters.toList ++ 'm' :: after.toList := by
      simpa [closing, body] using hreset
    have hsame := ((List.append_cons_inj_of_notMem hm.1 hm.2).mp hdigits).1
    exact (hzero (String.toList_inj.mp hsame.symm)).elim

theorem reset_of_write (terminal : Terminal) {call : Call} (hcall : call.Plain)
    {before sequence after : String} (hsequence : SetsColor sequence)
    (hsplit : terminal.write call = before ++ sequence ++ after) :
    ∃ middle, after = middle ++ reset ++ call.ending := by
  obtain ⟨hwrites, htext⟩ := Call.plain_iff.mp hcall
  have hescape : ¬ Text.Plain (before ++ sequence ++ after) := by
    obtain ⟨parameters, -, -, rfl⟩ := hsequence
    simp [Text.Plain, toList_graphics]
  rw [write_of_writes terminal hwrites] at hsplit
  cases hcolor : call.color? with
  | none =>
      rw [hcolor, Option.elim_none] at hsplit
      exact (hescape (hsplit ▸ htext.append call.plain_ending)).elim
  | some color =>
      rw [hcolor, Option.elim_some, colored] at hsplit
      split at hsplit
      · obtain ⟨chosen, hchosen, hforeground⟩ := areParameters_foreground terminal color
        rw [hforeground] at hsplit
        exact reset_of_setsColor hchosen htext call.ending_eq hsequence hsplit
      · exact (hescape (hsplit ▸ htext.append call.plain_ending)).elim

/-! ## The three renderings -/

/-- For calls that write texts, a terminal without colors writes what the output of a
recording of the calls is.  If no text contains an escape, a terminal with colors writes
the same but for sequences `ESC[...m`, and in a call each of these that sets a color is
followed by a reset, which comes before the newline of the call.  `NO_COLOR` makes no
difference. -/
theorem renderings_agree (noColor : Option String) (input : List String) {calls : List Call}
    (hwrites : ∀ call ∈ calls, call.Writes) :
    let recording : Recording := calls.foldl Recording.record { input := input }
    let styled : Terminal := forEnvironment true noColor
    (forEnvironment false noColor).writeAll calls = recording.output ∧
      ((∀ call ∈ calls, Text.Plain call.text) →
        erase (styled.writeAll calls) = recording.output ∧
        ∀ call ∈ calls, ∀ before sequence after, SetsColor sequence →
          styled.write call = before ++ sequence ++ after →
          ∃ middle, after = middle ++ reset ++ call.ending) := by
  intro recording styled
  have houtput : recording.output = String.join (calls.map Call.plainText) := by
    rw [Recording.output, Recording.calls_foldl_record, List.nil_append]
  rw [houtput]
  constructor
  · have hsame : calls.map (forEnvironment false noColor).write =
        calls.map Call.plainText :=
      List.map_congr_left fun call hmem => write_eq_plainText rfl (hwrites call hmem)
    rw [writeAll, hsame]
  · intro htexts
    have hplain : ∀ call ∈ calls, call.Plain := fun call hmem =>
      Call.plain_iff.mpr ⟨hwrites call hmem, htexts call hmem⟩
    refine ⟨erase_writeAll styled hplain, ?_⟩
    intro call hmem before sequence after hsequence hsplit
    exact reset_of_write styled (hplain call hmem) hsequence hsplit

theorem renderings_of_texts_like_sequences :
    let calls : List Call := [.write "[0m", .writeColored "38;5;9m" (.rgb 1 20 255),
      .writeLineColored ";m" .standard, .warning "", .error "[31mno", .writeLine "m"]
    (∀ call ∈ calls, call.Writes) ∧ (∀ call ∈ calls, Text.Plain call.text) ∧
    (forEnvironment false none).writeAll calls = "[0m38;5;9m;m\n\n[31mno\nm\n" ∧
    erase ((forEnvironment true none).writeAll calls) = "[0m38;5;9m;m\n\n[31mno\nm\n" ∧
    erase ((forEnvironment true (some "1")).writeAll calls) =
      "[0m38;5;9m;m\n\n[31mno\nm\n" := by
  intro calls
  have hwrites : ∀ call ∈ calls, call.Writes := by simp [calls, Call.Writes]
  have htexts : ∀ call ∈ calls, Text.Plain call.text := by decide
  have hcolored := renderings_agree none [] hwrites
  have hbare := renderings_agree (some "1") [] hwrites
  exact ⟨hwrites, htexts, hcolored.1, (hcolored.2 htexts).1, (hbare.2 htexts).1⟩

example : erase "\x1b[38;5;9mno \x1b[4mway\x1b[0m\n" = "no way\n" := by cbv

end Terminal

end CommandShell
