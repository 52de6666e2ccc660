import Mathlib.Data.List.DropRight
import CommandShell.Console
import CommandShell.Proofs.CommandLine.Scanner
import CommandShell.Text

/-!
# Trimmed texts and plain texts

A text without an escape character is plain.
-/

namespace CommandShell

namespace Text

/-- A text is a part of it between blanks, and the part has no blank at its ends. -/
def Trimmed (text kept : String) : Prop :=
  ∃ before after : String, text = before ++ kept ++ after ∧
    (∀ c ∈ before.toList, isBlank c = true) ∧ (∀ c ∈ after.toList, isBlank c = true) ∧
    (∀ c ∈ kept.toList.head?, isBlank c = false) ∧
    ∀ c ∈ kept.toList.getLast?, isBlank c = false

variable {p : Char → Bool}

theorem dropTrailing_eq_rdropWhile (cs : List Char) :
    dropTrailing p cs = cs.rdropWhile p := rfl

theorem not_of_mem_getLast?_dropTrailing {cs : List Char} {c : Char}
    (hlast : c ∈ (dropTrailing p cs).getLast?) : p c = false := by
  rw [dropTrailing_eq_rdropWhile] at hlast
  obtain ⟨hne, rfl⟩ := List.mem_getLast?_eq_getLast hlast
  simpa using List.rdropWhile_last_not p cs hne

theorem not_of_mem_head?_dropWhile {cs : List Char} {c : Char}
    (hhead : c ∈ (cs.dropWhile p).head?) : p c = false := by
  have hnot := List.head?_dropWhile_not p cs
  rw [Option.mem_def.mp hhead] at hnot
  exact hnot

theorem mem_head?_of_mem_head?_dropTrailing {cs : List Char} {c : Char}
    (hhead : c ∈ (dropTrailing p cs).head?) : c ∈ cs.head? := by
  obtain ⟨dropped, hsplit⟩ := List.rdropWhile_prefix p cs
  rw [← dropTrailing_eq_rdropWhile] at hsplit
  rw [← hsplit]
  exact List.mem_head?_append_of_mem_head? hhead

theorem dropTrailing_append {kept dropped : List Char}
    (hdropped : ∀ c ∈ dropped, p c = true) (hkept : ∀ c ∈ kept.getLast?, p c = false) :
    dropTrailing p (kept ++ dropped) = kept := by
  rw [dropTrailing, List.reverse_append, List.dropWhile_append_of_pos]
  · rcases List.eq_nil_or_concat kept with rfl | ⟨init, last, rfl⟩
    · rfl
    · have hlast := hkept last (by simp)
      simp [hlast]
  · intro c hmem
    exact hdropped c (List.mem_reverse.mp hmem)

theorem trimmed_trim (text : String) : Trimmed text (trim text) := by
  have hchars : text.toList = text.toList.takeWhile isBlank ++
      trimChars text.toList ++ (text.toList.dropWhile isBlank).rtakeWhile isBlank := by
    rw [trimChars, dropTrailing_eq_rdropWhile, List.append_assoc,
      List.rdropWhile_append_rtakeWhile, List.takeWhile_append_dropWhile]
  refine ⟨String.ofList (text.toList.takeWhile isBlank),
    String.ofList ((text.toList.dropWhile isBlank).rtakeWhile isBlank), ?_, ?_, ?_, ?_, ?_⟩
  · rw [trim, ← String.ofList_append, ← String.ofList_append, ← hchars,
      String.ofList_toList]
  · intro c hmem
    rw [String.toList_ofList] at hmem
    exact List.mem_takeWhile_imp hmem
  · intro c hmem
    rw [String.toList_ofList] at hmem
    exact List.mem_rtakeWhile_imp hmem
  · intro c hhead
    rw [trim, String.toList_ofList, trimChars] at hhead
    exact not_of_mem_head?_dropWhile (mem_head?_of_mem_head?_dropTrailing hhead)
  · intro c hlast
    rw [trim, String.toList_ofList, trimChars] at hlast
    exact not_of_mem_getLast?_dropTrailing hlast

theorem Trimmed.eq_trim {text kept : String} (htrimmed : Trimmed text kept) :
    kept = trim text := by
  obtain ⟨before, after, rfl, hbefore, hafter, hhead, hlast⟩ := htrimmed
  have hdrop : (kept.toList ++ after.toList).dropWhile isBlank =
      if kept.toList = [] then [] else kept.toList ++ after.toList := by
    cases hkept : kept.toList with
    | nil => simpa using hafter
    | cons c rest =>
        have hc := hhead c (by rw [hkept]; rfl)
        simp [hc]
  rw [trim, trimChars, String.toList_append, String.toList_append, List.append_assoc,
    List.dropWhile_append_of_pos hbefore, hdrop]
  by_cases hkept : kept.toList = []
  · rw [if_pos hkept, ← String.ofList_toList (s := kept), hkept]
    rfl
  · rw [if_neg hkept, dropTrailing_append hafter hlast, String.ofList_toList]

end Text

/-! ## Plain texts -/

namespace Text

/-- A text without an escape character. -/
def Plain (text : String) : Prop := '\x1b' ∉ text.toList

instance (text : String) : Decidable (Plain text) :=
  inferInstanceAs (Decidable ('\x1b' ∉ text.toList))

theorem plain_append_iff (first second : String) :
    Plain (first ++ second) ↔ Plain first ∧ Plain second := by
  simp [Plain]

theorem Plain.append {first second : String} (hfirst : Plain first)
    (hsecond : Plain second) : Plain (first ++ second) :=
  (plain_append_iff first second).mpr ⟨hfirst, hsecond⟩

theorem plain_join_iff (texts : List String) :
    Plain (String.join texts) ↔ ∀ text ∈ texts, Plain text := by
  simp [Plain]

theorem Plain.intercalate {separator : String} {texts : List String}
    (hseparator : Plain separator) (htexts : ∀ text ∈ texts, Plain text) :
    Plain (String.intercalate separator texts) := by
  induction texts with
  | nil => simp [Plain]
  | cons text rest ih =>
      have htext : Plain text := htexts text (by simp)
      have hrest := ih fun other hmem => htexts other (List.mem_cons_of_mem text hmem)
      cases rest with
      | nil => simpa using htext
      | cons next rest =>
          rw [String.intercalate_cons_cons]
          exact (htext.append hseparator).append hrest

theorem mem_of_mem_dropTrailing {p : Char → Bool} {cs : List Char} {c : Char}
    (hmem : c ∈ dropTrailing p cs) : c ∈ cs := by
  rw [dropTrailing, List.mem_reverse] at hmem
  exact List.mem_reverse.mp (List.dropWhile_subset p hmem)

theorem Plain.trim {text : String} (htext : Plain text) : Plain (Text.trim text) := by
  intro hmem
  rw [Text.trim, String.toList_ofList, trimChars] at hmem
  exact htext (List.dropWhile_subset _ (mem_of_mem_dropTrailing hmem))

end Text

namespace Token

theorem mem_read_or_mem_of_mem_scan {pending : Pending} {line token : List Char}
    {c : Char} (htoken : token ∈ scan pending line) (hc : c ∈ token) :
    c ∈ pending.read ∨ c ∈ line := by
  induction line generalizing pending with
  | nil =>
      rw [scan] at htoken
      exact Or.inl (Pending.mem_read_of_mem_flush htoken hc)
  | cons d line ih =>
      rw [scan_cons, List.mem_append] at htoken
      rcases htoken with hended | hlater
      · have hflush := Pending.mem_flush_of_mem_ended hended
        exact Or.inl (Pending.mem_read_of_mem_flush hflush hc)
      · rcases ih hlater with hread | hline
        · rcases Pending.mem_read_next hread with rfl | hpending
          · exact Or.inr (by simp)
          · exact Or.inl hpending
        · exact Or.inr (List.mem_cons_of_mem d hline)

end Token

theorem Text.Plain.of_mem_tokenize {line token : String} (hline : Text.Plain line)
    (htoken : token ∈ tokenize line) : Text.Plain token := by
  obtain ⟨chars, hchars, rfl⟩ := List.mem_map.mp htoken
  intro hescape
  rw [String.toList_ofList] at hescape
  rcases Token.mem_read_or_mem_of_mem_scan hchars hescape with hread | hmem
  · simp [Token.Pending.read] at hread
  · exact hline hmem

structure CommandLine.Plain (line : CommandLine) : Prop where
  command : Text.Plain line.command
  args : ∀ arg ∈ line.args, Text.Plain arg

theorem CommandLine.Plain.of_parse? {text : String} {line : CommandLine}
    (htext : Text.Plain text) (hline : CommandLine.parse? text = some line) :
    line.Plain := by
  have htokens : ∀ token ∈ tokenize text, Text.Plain token :=
    fun token hmem => htext.of_mem_tokenize hmem
  unfold CommandLine.parse? at hline
  cases hcase : tokenize text with
  | nil => simp [hcase, CommandLine.ofTokens?] at hline
  | cons command args =>
      rw [hcase] at hline htokens
      simp only [CommandLine.ofTokens?, Option.some.injEq] at hline
      subst hline
      exact ⟨htokens command (by simp),
        fun arg hmem => htokens arg (List.mem_cons_of_mem command hmem)⟩

def Call.Plain : Call → Prop
  | .title _ => False
  | .write text => Text.Plain text
  | .writeColored text _ => Text.Plain text
  | .writeLine text => Text.Plain text
  | .writeLineColored text _ => Text.Plain text
  | .warning text => Text.Plain text
  | .error text => Text.Plain text
  | .clear => False

theorem Terminal.plain_write {terminal : Terminal} (hcolors : terminal.colors = false)
    {call : Call} (hcall : call.Plain) : Text.Plain (terminal.write call) := by
  have hcolored : ∀ text color, terminal.colored text color = text := by
    intro text color
    rw [Terminal.colored, hcolors]
    rfl
  have hnewline : Text.Plain "\n" := by decide
  cases call with
  | title text => exact hcall.elim
  | write text => exact hcall
  | writeColored text color =>
      rw [Terminal.write, hcolored]
      exact hcall
  | writeLine text => exact Text.Plain.append hcall hnewline
  | writeLineColored text color =>
      rw [Terminal.write, hcolored]
      exact Text.Plain.append hcall hnewline
  | warning text =>
      rw [Terminal.write, hcolored]
      exact Text.Plain.append hcall hnewline
  | error text =>
      rw [Terminal.write, hcolored]
      exact Text.Plain.append hcall hnewline
  | clear => exact hcall.elim

end CommandShell
