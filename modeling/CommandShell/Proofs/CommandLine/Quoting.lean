import CommandShell.Proofs.CommandLine.Scanner

/-!
# Quoted lines

Between quotes every character but the quote stands for itself, so what holds no quote can
be written into a line.
-/

namespace CommandShell

namespace Token

theorem Pending.quote_not_mem_read_next {pending : Pending} (c : Char)
    (hpending : '"' ∉ pending.read) : '"' ∉ (pending.next c).read := by
  intro hmem
  rcases mem_read_next hmem with rfl | hread
  · cases pending <;> simp [next, read] at hmem
  · exact hpending hread

theorem quote_not_mem_of_mem_scan {pending : Pending} {line token : List Char}
    (hpending : '"' ∉ pending.read) (htoken : token ∈ scan pending line) :
    '"' ∉ token := by
  induction line generalizing pending with
  | nil =>
      rw [scan] at htoken
      exact fun hc => hpending (Pending.mem_read_of_mem_flush htoken hc)
  | cons c rest ih =>
      rw [scan_cons, List.mem_append] at htoken
      rcases htoken with hended | hlater
      · have hflush := Pending.mem_flush_of_mem_ended hended
        exact fun hc => hpending (Pending.mem_read_of_mem_flush hflush hc)
      · exact ih (Pending.quote_not_mem_read_next c hpending) hlater

theorem quote_not_mem_of_mem_tokenize {line token : String}
    (htoken : token ∈ tokenize line) : '"' ∉ token.toList := by
  obtain ⟨chars, hchars, rfl⟩ := List.mem_map.mp htoken
  rw [String.toList_ofList]
  exact quote_not_mem_of_mem_scan (by simp [Pending.read]) hchars

theorem scan_span_append {text : List Char} (read rest : List Char)
    (htext : '"' ∉ text) :
    scan (.span read) (text ++ '"' :: rest) = (read.reverse ++ text) :: ofLine rest := by
  induction text generalizing read with
  | nil =>
      rw [List.nil_append, scan, if_pos rfl, List.append_nil]
      rfl
  | cons c text ih =>
      rw [List.mem_cons, not_or] at htext
      rw [List.cons_append, scan, if_neg (fun hc => htext.1 hc.symm), ih _ htext.2]
      simp

theorem ofLine_quoted_append {text : List Char} (rest : List Char) (htext : '"' ∉ text) :
    ofLine ('"' :: (text ++ '"' :: rest)) = text :: ofLine rest := by
  rw [ofLine, scan, if_pos rfl, scan_span_append [] rest htext]
  rfl

theorem ofLine_cons_blank {c : Char} (line : List Char) (hblank : Text.isBlank c = true) :
    ofLine (c :: line) = ofLine line := by
  have hquote : c ≠ '"' := by
    rintro rfl
    revert hblank
    decide
  rw [ofLine, scan, if_neg hquote, if_pos hblank]
  rfl

theorem ofLine_blank_append {blanks : List Char} (line : List Char)
    (hblanks : ∀ c ∈ blanks, Text.isBlank c = true) :
    ofLine (blanks ++ line) = ofLine line := by
  induction blanks with
  | nil => rfl
  | cons c rest ih =>
      rw [List.forall_mem_cons] at hblanks
      rw [List.cons_append, ofLine_cons_blank _ hblanks.1]
      exact ih hblanks.2

/-! ## Lines of quoted texts -/

/-- What may stand between two quoted texts: blanks, or nothing. -/
structure Gap where
  text : String
  blank : ∀ c ∈ text.toList, Text.isBlank c = true

def Gap.none : Gap := ⟨"", by simp⟩

def enclosed (gaps : Nat → Gap) : List String → String
  | [] => (gaps 0).text
  | text :: texts =>
    (gaps 0).text ++ "\"" ++ text ++ "\"" ++ enclosed (fun index => gaps (index + 1)) texts

theorem tokenize_gap (gap : Gap) : tokenize gap.text = [] := by
  have htokens := ofLine_blank_append [] gap.blank
  rw [List.append_nil] at htokens
  rw [tokenize, htokens]
  rfl

theorem tokenize_gap_quoted_append (gap : Gap) {text : String} (line : String)
    (htext : '"' ∉ text.toList) :
    tokenize (gap.text ++ "\"" ++ text ++ "\"" ++ line) = text :: tokenize line := by
  have hchars : (gap.text ++ "\"" ++ text ++ "\"" ++ line).toList =
      gap.text.toList ++ '"' :: (text.toList ++ '"' :: line.toList) := by
    simp
  rw [tokenize, hchars, ofLine_blank_append _ gap.blank, ofLine_quoted_append _ htext]
  rw [List.map_cons, String.ofList_toList]
  rfl

theorem tokenize_enclosed (gaps : Nat → Gap) {texts : List String}
    (htexts : ∀ text ∈ texts, '"' ∉ text.toList) :
    tokenize (enclosed gaps texts) = texts := by
  induction texts generalizing gaps with
  | nil => exact tokenize_gap (gaps 0)
  | cons text texts ih =>
      rw [List.forall_mem_cons] at htexts
      rw [enclosed, tokenize_gap_quoted_append _ _ htexts.1, ih _ htexts.2]

theorem exists_tokenize_eq_iff (tokens : List String) :
    (∃ line, tokenize line = tokens) ↔ ∀ token ∈ tokens, '"' ∉ token.toList := by
  constructor
  · rintro ⟨line, rfl⟩ token htoken
    exact quote_not_mem_of_mem_tokenize htoken
  · intro htokens
    exact ⟨enclosed (fun _ => .none) tokens, tokenize_enclosed _ htokens⟩

/-- Quoting undoes tokenizing, whatever the gaps: it writes exactly the lists of texts
without a quote, and these are the lists of tokens. -/
theorem tokenize_enclosed_iff :
    (∀ (gaps : Nat → Gap) (texts : List String),
      tokenize (enclosed gaps texts) = texts ↔ ∀ text ∈ texts, '"' ∉ text.toList) ∧
    (∀ line, ∀ token ∈ tokenize line, '"' ∉ token.toList) ∧
    (∀ tokens : List String, (∃ line, tokenize line = tokens) ↔
      ∀ token ∈ tokens, '"' ∉ token.toList) ∧
    ∀ (gaps : Nat → Gap) (line : String),
      tokenize (enclosed gaps (tokenize line)) = tokenize line := by
  refine ⟨?_, fun _ _ => quote_not_mem_of_mem_tokenize, exists_tokenize_eq_iff, ?_⟩
  · intro gaps texts
    constructor
    · intro hsame text hmem
      rw [← hsame] at hmem
      exact quote_not_mem_of_mem_tokenize hmem
    · exact tokenize_enclosed gaps
  · intro gaps line
    apply tokenize_enclosed
    intro token htoken
    exact quote_not_mem_of_mem_tokenize htoken

/-! ## What lines spell -/

theorem scan_ne_nil {pending : Pending} (line : List Char)
    (hpending : pending ≠ .word []) : scan pending line ≠ [] := by
  fun_induction scan pending line with
  | case1 pending =>
      cases pending with
      | word read =>
          cases read with
          | nil => exact absurd rfl hpending
          | cons c read => simp [Pending.flush]
      | span read => simp [Pending.flush]
  | case2 read rest ih => simp [ih]
  | case3 read c rest hquote hblank ih =>
      cases read with
      | nil => exact absurd rfl hpending
      | cons d read => simp [Pending.flush]
  | case4 read c rest hquote hblank ih => exact ih (by simp)
  | case5 read rest ih => simp [Pending.flush]
  | case6 read c rest hquote ih => exact ih (by simp)

theorem ofLine_eq_nil_iff (line : List Char) :
    ofLine line = [] ↔ ∀ c ∈ line, Text.isBlank c = true := by
  induction line with
  | nil => exact iff_of_true rfl (by simp)
  | cons c line ih =>
      rw [List.forall_mem_cons, ofLine, scan]
      by_cases hquote : c = '"'
      · have hletter : Text.isBlank c = false := by
          rw [hquote]
          decide
        rw [if_pos hquote]
        simp [hletter, scan_ne_nil]
      · rw [if_neg hquote]
        cases hblank : Text.isBlank c with
        | true =>
            rw [if_pos rfl, Pending.flush, List.nil_append]
            simpa [ofLine] using ih
        | false => simp [scan_ne_nil]

end Token

namespace CommandLine

theorem parse?_eq_some_iff {text : String} {line : CommandLine} :
    parse? text = some line ↔ tokenize text = line.command :: line.args := by
  unfold parse?
  cases tokenize text with
  | nil => simp [ofTokens?]
  | cons command args =>
      obtain ⟨name, rest⟩ := line
      simp [ofTokens?]

theorem parse?_eq_none_iff (text : String) :
    parse? text = none ↔ ∀ c ∈ text.toList, Text.isBlank c = true := by
  have htokens : tokenize text = [] ↔ Token.ofLine text.toList = [] :=
    List.map_eq_nil_iff
  rw [← Token.ofLine_eq_nil_iff, ← htokens, parse?]
  cases tokenize text <;> simp [ofTokens?]

/-- A command line can be typed just if neither its command nor an argument holds a
quote. -/
theorem exists_parse?_iff (line : CommandLine) :
    (∃ text, parse? text = some line) ↔
      '"' ∉ line.command.toList ∧ ∀ arg ∈ line.args, '"' ∉ arg.toList := by
  simp only [parse?_eq_some_iff]
  rw [Token.exists_tokenize_eq_iff, List.forall_mem_cons]

end CommandLine

end CommandShell
