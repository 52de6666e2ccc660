import CommandShell.CommandLine

/-!
# The scanner as a state machine

A character ends the pending token or joins it, so a line in two parts is scanned part by
part.
-/

namespace CommandShell

namespace Token

/-- A character at which a word ends: a quote or a blank. -/
def Divides (c : Char) : Prop :=
  c = '"' ∨ Text.isBlank c = true

instance : DecidablePred Divides :=
  fun c => inferInstanceAs (Decidable (c = '"' ∨ Text.isBlank c = true))

namespace Pending

def read : Pending → List Char
  | .word read => read
  | .span read => read

def isSpan : Pending → Bool
  | .word _ => false
  | .span _ => true

def next : Pending → Char → Pending
  | .word read, c =>
    if c = '"' then .span [] else if Text.isBlank c then .word [] else .word (c :: read)
  | .span read, c => if c = '"' then .word [] else .span (c :: read)

def ended (pending : Pending) (c : Char) : List (List Char) :=
  match pending with
  | .word _ => if Divides c then pending.flush else []
  | .span _ => if c = '"' then pending.flush else []

theorem flush_word {read : List Char} (hread : read ≠ []) :
    (Pending.word read).flush = [read.reverse] := by
  rw [flush]
  exact hread

theorem next_word_of_divides (read : List Char) {c : Char} (hdivides : Divides c) :
    (Pending.word read).next c = (Pending.word []).next c := by
  rw [next, next]
  by_cases hquote : c = '"'
  · rw [if_pos hquote, if_pos hquote]
  · have hblank : Text.isBlank c = true := hdivides.resolve_left hquote
    rw [if_neg hquote, if_neg hquote, if_pos hblank, if_pos hblank]

theorem next_word_of_not_divides (read : List Char) {c : Char} (hletter : ¬ Divides c) :
    (Pending.word read).next c = .word (c :: read) := by
  rw [Divides, not_or] at hletter
  rw [next, if_neg hletter.1, if_neg hletter.2]

theorem mem_read_of_mem_flush {pending : Pending} {token : List Char} {c : Char}
    (htoken : token ∈ pending.flush) (hc : c ∈ token) : c ∈ pending.read := by
  cases pending with
  | word read =>
      cases read with
      | nil => simp [flush] at htoken
      | cons d read =>
          rw [flush_word (List.cons_ne_nil d read), List.mem_singleton] at htoken
          rw [htoken, List.mem_reverse] at hc
          exact hc
  | span read =>
      rw [flush, List.mem_singleton] at htoken
      rw [htoken, List.mem_reverse] at hc
      exact hc

theorem mem_flush_of_mem_ended {pending : Pending} {c : Char} {token : List Char}
    (htoken : token ∈ pending.ended c) : token ∈ pending.flush := by
  unfold ended at htoken
  split at htoken <;> split at htoken
  · exact htoken
  · contradiction
  · exact htoken
  · contradiction

theorem mem_read_next {pending : Pending} {c d : Char}
    (hmem : d ∈ (pending.next c).read) : d = c ∨ d ∈ pending.read := by
  cases pending with
  | word read =>
      rw [next] at hmem
      split at hmem
      · contradiction
      · split at hmem
        · contradiction
        · exact List.mem_cons.mp hmem
  | span read =>
      rw [next] at hmem
      split at hmem
      · contradiction
      · exact List.mem_cons.mp hmem

theorem isSpan_next (pending : Pending) (c : Char) :
    (pending.next c).isSpan = if c = '"' then !pending.isSpan else pending.isSpan := by
  cases pending with
  | word read =>
      rw [next]
      split
      · rfl
      · split <;> rfl
  | span read =>
      rw [next]
      split <;> rfl

theorem next_eq_word_nil_iff {pending : Pending} {c : Char}
    (hword : (pending.next c).isSpan = false) :
    pending.next c = .word [] ↔ Divides c := by
  rw [isSpan_next] at hword
  cases pending with
  | word read =>
      have hquote : c ≠ '"' := by
        rintro rfl
        simp [isSpan] at hword
      rw [next, if_neg hquote]
      unfold Divides
      cases hblank : Text.isBlank c with
      | true => simp
      | false => simp [hquote]
  | span read =>
      have hquote : c = '"' := by
        by_cases hquote : c = '"'
        · exact hquote
        · simp [isSpan, hquote] at hword
      simp [next, Divides, hquote]

/-! ## Many characters -/

/-- What is pending after a text. -/
def after (pending : Pending) (text : List Char) : Pending :=
  text.foldl next pending

def endedBy : Pending → List Char → List (List Char)
  | _, [] => []
  | pending, c :: rest => pending.ended c ++ (pending.next c).endedBy rest

@[simp] theorem after_nil (pending : Pending) : pending.after [] = pending := rfl

@[simp] theorem after_cons (pending : Pending) (c : Char) (rest : List Char) :
    pending.after (c :: rest) = (pending.next c).after rest := rfl

theorem after_concat (pending : Pending) (text : List Char) (c : Char) :
    pending.after (text ++ [c]) = (pending.after text).next c := by
  simp [after]

theorem isSpan_after (pending : Pending) (text : List Char) :
    (pending.after text).isSpan = (pending.isSpan ^^ decide (text.count '"' % 2 = 1)) := by
  induction text generalizing pending with
  | nil => simp
  | cons c rest ih =>
      rw [after_cons, ih, isSpan_next]
      by_cases hquote : c = '"'
      · have hparity : decide ((rest.count '"' + 1) % 2 = 1) =
            !decide (rest.count '"' % 2 = 1) := by
          rw [← decide_not, decide_eq_decide]
          omega
        rw [if_pos hquote, hquote, List.count_cons_self, hparity]
        exact Bool.not_xor _ _ |>.trans (Bool.xor_not _ _).symm
      · rw [if_neg hquote, List.count_cons_of_ne hquote]

theorem after_eq_word_nil_iff {text : List Char} (heven : text.count '"' % 2 = 0) :
    (Pending.word []).after text = .word [] ↔ ∀ c ∈ text.getLast?, Divides c := by
  have hword : ((Pending.word []).after text).isSpan = false := by
    rw [isSpan_after]
    simp [isSpan, heven]
  rcases List.eq_nil_or_concat text with rfl | ⟨before, last, rfl⟩
  · simp
  · rw [List.concat_eq_append, after_concat] at hword ⊢
    rw [next_eq_word_nil_iff hword]
    simp

end Pending

theorem scan_cons (pending : Pending) (c : Char) (line : List Char) :
    scan pending (c :: line) = pending.ended c ++ scan (pending.next c) line := by
  cases pending with
  | word read =>
      rw [scan, Pending.ended]
      by_cases hdivides : Divides c
      · rw [if_pos hdivides, Pending.next]
        by_cases hquote : c = '"'
        · rw [if_pos hquote, if_pos hquote]
        · have hblank : Text.isBlank c = true := hdivides.resolve_left hquote
          rw [if_neg hquote, if_pos hblank, if_neg hquote, if_pos hblank]
      · rw [if_neg hdivides, Pending.next_word_of_not_divides read hdivides]
        rw [Divides, not_or] at hdivides
        rw [if_neg hdivides.1, if_neg hdivides.2, List.nil_append]
  | span read =>
      rw [scan, Pending.next, Pending.ended]
      by_cases hquote : c = '"'
      · rw [if_pos hquote, if_pos hquote, if_pos hquote]
      · rw [if_neg hquote, if_neg hquote, if_neg hquote, List.nil_append]

theorem scan_word_cons_of_divides (read : List Char) {c : Char} (line : List Char)
    (hdivides : Divides c) :
    scan (.word read) (c :: line) =
      (Pending.word read).flush ++ scan ((Pending.word []).next c) line := by
  rw [scan_cons, Pending.ended, if_pos hdivides, Pending.next_word_of_divides read hdivides]

theorem scan_word_cons_of_not_divides (read : List Char) {c : Char} (line : List Char)
    (hletter : ¬ Divides c) :
    scan (.word read) (c :: line) = scan (.word (c :: read)) line := by
  rw [scan_cons, Pending.ended, if_neg hletter,
    Pending.next_word_of_not_divides read hletter, List.nil_append]

theorem scan_append (pending : Pending) (first second : List Char) :
    scan pending (first ++ second) =
      pending.endedBy first ++ scan (pending.after first) second := by
  induction first generalizing pending with
  | nil => rfl
  | cons c rest ih =>
      rw [List.cons_append, scan_cons, ih, Pending.endedBy, Pending.after_cons,
        List.append_assoc]

theorem scan_eq_endedBy_append_flush (pending : Pending) (text : List Char) :
    scan pending text = pending.endedBy text ++ (pending.after text).flush := by
  have happend := scan_append pending text []
  rw [List.append_nil] at happend
  rw [happend, scan]

/-! ## Lines in two parts -/

theorem exists_scan_word_append {read : List Char} (earlier line : List Char)
    (hread : read ≠ []) :
    ∃ token tokens, scan (.word read) line = token :: tokens ∧
      scan (.word (read ++ earlier)) line = (earlier.reverse ++ token) :: tokens := by
  -- the induction is on the line, along which the word grows until a character ends it
  induction line generalizing read with
  | nil =>
      have hlonger : read ++ earlier ≠ [] := by
        simp [hread]
      refine ⟨read.reverse, [], ?_, ?_⟩
      · rw [scan, Pending.flush_word hread]
      · rw [scan, Pending.flush_word hlonger, List.reverse_append]
  | cons c rest ih =>
      by_cases hdivides : Divides c
      · have hlonger : read ++ earlier ≠ [] := by
          simp [hread]
        refine ⟨read.reverse, scan ((Pending.word []).next c) rest, ?_, ?_⟩
        · rw [scan_word_cons_of_divides _ _ hdivides, Pending.flush_word hread,
            List.singleton_append]
        · rw [scan_word_cons_of_divides _ _ hdivides, Pending.flush_word hlonger,
            List.reverse_append, List.singleton_append]
      · obtain ⟨token, tokens, hscan, hlonger⟩ := ih (List.cons_ne_nil c read)
        refine ⟨token, tokens, ?_, ?_⟩
        · rw [scan_word_cons_of_not_divides _ _ hdivides, hscan]
        · rw [scan_word_cons_of_not_divides _ _ hdivides, ← List.cons_append, hlonger]

variable {first second : List Char}

/-- Between the parts no word goes on: the first part ends in no character of a word,
or the second begins with none. -/
def Parted (first second : List Char) : Prop :=
  (∀ c ∈ first.getLast?, Divides c) ∨ ∀ c ∈ second.head?, Divides c

theorem exists_after_eq_word (heven : first.count '"' % 2 = 0) :
    ∃ read, (Pending.word []).after first = .word read := by
  have hword : ((Pending.word []).after first).isSpan = false := by
    rw [Pending.isSpan_after]
    simp [Pending.isSpan, heven]
  cases hafter : (Pending.word []).after first with
  | word read => exact ⟨read, rfl⟩
  | span read =>
      rw [hafter] at hword
      contradiction

theorem scan_word_of_divides (read : List Char) (hhead : ∀ c ∈ second.head?, Divides c) :
    scan (.word read) second = (Pending.word read).flush ++ ofLine second := by
  cases second with
  | nil => rw [ofLine, scan, scan, Pending.flush, List.append_nil]
  | cons c rest =>
      have hdivides : Divides c := hhead c rfl
      rw [ofLine, scan_word_cons_of_divides _ _ hdivides,
        scan_word_cons_of_divides _ _ hdivides, Pending.flush, List.nil_append]

theorem ofLine_append_of_parted (heven : first.count '"' % 2 = 0)
    (hparted : Parted first second) :
    ofLine (first ++ second) = ofLine first ++ ofLine second := by
  rw [ofLine, scan_append, ofLine, scan_eq_endedBy_append_flush _ first,
    List.append_assoc]
  apply congrArg
  rcases hparted with hlast | hhead
  · have hnone := (Pending.after_eq_word_nil_iff heven).mpr hlast
    rw [hnone]
    rfl
  · obtain ⟨read, hafter⟩ := exists_after_eq_word heven
    rw [hafter]
    exact scan_word_of_divides read hhead

theorem ofLine_append_of_not_parted (heven : first.count '"' % 2 = 0)
    (hparted : ¬ Parted first second) :
    ∃ before last next after, ofLine first = before ++ [last] ∧
      ofLine second = next :: after ∧
      ofLine (first ++ second) = before ++ (last ++ next) :: after := by
  rw [Parted, not_or] at hparted
  obtain ⟨hlast, hhead⟩ := hparted
  obtain ⟨read, hafter⟩ := exists_after_eq_word heven
  have hread : read ≠ [] := by
    rintro rfl
    exact hlast ((Pending.after_eq_word_nil_iff heven).mp hafter)
  cases second with
  | nil => simp at hhead
  | cons c rest =>
      have hletter : ¬ Divides c := by
        simpa using hhead
      obtain ⟨next, after, hnext, hjoined⟩ :=
        exists_scan_word_append read rest (List.cons_ne_nil c [])
      refine ⟨(Pending.word []).endedBy first, read.reverse, next, after, ?_, ?_, ?_⟩
      · rw [ofLine, scan_eq_endedBy_append_flush, hafter, Pending.flush_word hread]
      · rw [ofLine, scan_word_cons_of_not_divides _ _ hletter, hnext]
      · rw [ofLine, scan_append, hafter, scan_word_cons_of_not_divides _ _ hletter,
          ← List.singleton_append, hjoined]

/-- A line cut outside quotes has the tokens of both parts in order, where a word that
goes on across the cut is one token. -/
theorem tokenize_append_of_even_quotes {first second : String}
    (heven : first.toList.count '"' % 2 = 0) :
    (Parted first.toList second.toList →
      tokenize (first ++ second) = tokenize first ++ tokenize second) ∧
    (¬ Parted first.toList second.toList →
      ∃ before last next after, tokenize first = before ++ [last] ∧
        tokenize second = next :: after ∧
        tokenize (first ++ second) = before ++ (last ++ next) :: after) := by
  unfold tokenize
  rw [String.toList_append]
  constructor
  · intro hparted
    rw [ofLine_append_of_parted heven hparted, List.map_append]
  · intro hparted
    obtain ⟨before, last, next, after, hfirst, hsecond, hline⟩ :=
      ofLine_append_of_not_parted heven hparted
    refine ⟨before.map String.ofList, String.ofList last, String.ofList next,
      after.map String.ofList, ?_, ?_, ?_⟩
    · rw [hfirst, List.map_append, List.map_singleton]
    · rw [hsecond, List.map_cons]
    · rw [hline, List.map_append, List.map_cons, String.ofList_append]

theorem tokenize_append_cut_word :
    "set \"\" fo".toList.count '"' % 2 = 0 ∧
    (¬ Parted "set \"\" fo".toList "o\"x y".toList ∧
      ∃ before last next after, tokenize "set \"\" fo" = before ++ [last] ∧
        tokenize "o\"x y" = next :: after ∧
        tokenize ("set \"\" fo" ++ "o\"x y") = before ++ (last ++ next) :: after) ∧
    Parted "set \"\" fo".toList "\"x y".toList ∧
      tokenize ("set \"\" fo" ++ "\"x y") = tokenize "set \"\" fo" ++ tokenize "\"x y" := by
  have heven : "set \"\" fo".toList.count '"' % 2 = 0 := by decide
  have hletter : ¬ Divides 'o' := by decide
  have hcut : ¬ Parted "set \"\" fo".toList "o\"x y".toList := by
    rintro (hlast | hhead)
    · exact hletter (hlast 'o' rfl)
    · exact hletter (hhead 'o' rfl)
  have hparted : Parted "set \"\" fo".toList "\"x y".toList := by
    right
    rintro c ⟨⟩
    exact Or.inl rfl
  exact ⟨heven, ⟨hcut, (tokenize_append_of_even_quotes heven).2 hcut⟩, hparted,
    (tokenize_append_of_even_quotes heven).1 hparted⟩

end Token

end CommandShell
