import CommandShell.CommandLine

/-!
# The grammar of command lines

While the scanner reads, what it has read of the current segment stands in its pending
token.  So a scan from a pending word gives the words of the whole segment, and a scan from
a pending span the whole span.
-/

namespace CommandShell
namespace Segments

noncomputable def wordsFrom (read segment : List Char) : List (List Char) :=
  (segment.splitOnPPrepend Text.isBlank read).filter (!·.isEmpty)

theorem wordsFrom_nil_left (segment : List Char) :
    wordsFrom [] segment = words segment := by
  unfold wordsFrom words
  rw [List.splitOnPPrepend_nil_right]

theorem wordsFrom_nil_right (read : List Char) :
    wordsFrom read [] = (Token.Pending.word read).flush := by
  cases read with
  | nil => rfl
  | cons c read => simp [wordsFrom, Token.Pending.flush]

theorem wordsFrom_cons_blank (read : List Char) {c : Char} (segment : List Char)
    (hblank : Text.isBlank c = true) :
    wordsFrom read (c :: segment) =
      (Token.Pending.word read).flush ++ words segment := by
  rw [← wordsFrom_nil_right]
  unfold wordsFrom words
  rw [List.splitOnPPrepend_cons_pos hblank, List.splitOnPPrepend_nil]
  rw [← List.singleton_append, List.filter_append]

theorem wordsFrom_cons_letter (read : List Char) {c : Char} (segment : List Char)
    (hletter : Text.isBlank c = false) :
    wordsFrom read (c :: segment) = wordsFrom (c :: read) segment := by
  unfold wordsFrom
  rw [List.splitOnPPrepend_cons_neg hletter]

@[simp] theorem words_nil : words [] = [] := rfl

theorem words_cons_blank {c : Char} (segment : List Char)
    (hblank : Text.isBlank c = true) :
    words (c :: segment) = words segment := by
  rw [← wordsFrom_nil_left, wordsFrom_cons_blank [] segment hblank]
  rfl

theorem words_gap_append {gap : List Char} (segment : List Char)
    (hgap : ∀ c ∈ gap, Text.isBlank c = true) :
    words (gap ++ segment) = words segment := by
  induction gap with
  | nil => rfl
  | cons c gap ih =>
      rw [List.cons_append, words_cons_blank _ (hgap c (by simp))]
      exact ih fun d hd => hgap d (List.mem_cons_of_mem c hd)

theorem words_run_append {run rest : List Char} (hne : run ≠ [])
    (hrun : ∀ c ∈ run, Text.isBlank c = false)
    (hrest : ∀ c ∈ rest.head?, Text.isBlank c = true) :
    words (run ++ rest) = run :: words rest := by
  cases rest with
  | nil =>
      rw [List.append_nil]
      unfold words
      rw [List.splitOnP_eq_singleton hrun]
      simp [hne]
  | cons c rest =>
      have hblank : Text.isBlank c = true := hrest c rfl
      rw [words_cons_blank rest hblank]
      unfold words
      rw [List.splitOnP_append_cons_of_forall_mem hrun c hblank]
      simp [hne]

theorem Runs.words_eq {segment : List Char} {found : List (List Char)}
    (hruns : Runs segment found) : words segment = found := by
  induction hruns with
  | none hgap => simpa using words_gap_append [] hgap
  | @next gap run rest found hgap hne hrun hrest _ ih =>
      rw [List.append_assoc, words_gap_append _ hgap]
      rw [words_run_append hne hrun hrest, ih]

theorem Runs.cons_blank {segment : List Char} {found : List (List Char)} {c : Char}
    (hruns : Runs segment found) (hblank : Text.isBlank c = true) :
    Runs (c :: segment) found := by
  cases hruns with
  | none hgap =>
      exact .none (List.forall_mem_cons.mpr ⟨hblank, hgap⟩)
  | next hgap hne hrun hrest htail =>
      exact .next (List.forall_mem_cons.mpr ⟨hblank, hgap⟩) hne hrun hrest htail

theorem Runs.exists_cons_letter {segment : List Char} {found : List (List Char)}
    {c : Char} (hruns : Runs segment found) (hletter : Text.isBlank c = false) :
    ∃ longer, Runs (c :: segment) longer := by
  have halone : ∀ d ∈ [c], Text.isBlank d = false := by simpa using hletter
  cases hruns with
  | none hgap =>
      refine ⟨[[c]], ?_⟩
      refine @Runs.next [] [c] _ _ (by simp) (by simp) halone ?_ (.none hgap)
      exact fun d hd => hgap d (List.mem_of_mem_head? hd)
  | @next gap run rest found hgap hne hrun hrest htail =>
      cases gap with
      | nil =>
          refine ⟨(c :: run) :: found, ?_⟩
          exact @Runs.next [] (c :: run) _ _ (by simp) (by simp)
            (List.forall_mem_cons.mpr ⟨hletter, hrun⟩) hrest htail
      | cons d gap =>
          refine ⟨[c] :: run :: found, ?_⟩
          refine @Runs.next [] [c] _ _ (by simp) (by simp) halone ?_
            (.next hgap hne hrun hrest htail)
          simpa using hgap d (by simp)

theorem exists_runs (segment : List Char) : ∃ found, Runs segment found := by
  induction segment with
  | nil => exact ⟨[], .none (by simp)⟩
  | cons c segment ih =>
      obtain ⟨found, hruns⟩ := ih
      cases hc : Text.isBlank c with
      | true => exact ⟨found, hruns.cons_blank hc⟩
      | false => exact hruns.exists_cons_letter hc

theorem runs_iff (segment : List Char) (found : List (List Char)) :
    Runs segment found ↔ words segment = found := by
  constructor
  · exact Runs.words_eq
  · intro hfound
    obtain ⟨other, hruns⟩ := exists_runs segment
    rw [← hfound, hruns.words_eq]
    exact hruns

/-! ## The scanner and the segments -/

theorem cut_nil : cut [] = [[]] := rfl

theorem cut_cons_quote (line : List Char) : cut ('"' :: line) = [] :: cut line := by
  unfold cut
  rw [List.splitOn_cons_eq_if_modifyHead, if_pos (by simp)]

theorem cut_cons_other {c : Char} (line : List Char) (hc : c ≠ '"') :
    cut (c :: line) = (cut line).modifyHead (List.cons c) := by
  unfold cut
  rw [List.splitOn_cons_eq_if_modifyHead, if_neg (by simpa using hc)]

theorem scan_eq (line : List Char) :
    ∃ segment segments, cut line = segment :: segments ∧
      (∀ read, Token.scan (.word read) line =
        wordsFrom read segment ++ quoted segments) ∧
      (∀ read, Token.scan (.span read) line =
        (read.reverse ++ segment) :: unquoted segments) := by
  induction line with
  | nil =>
      refine ⟨[], [], cut_nil, ?_, ?_⟩
      · intro read
        rw [Token.scan, wordsFrom_nil_right, quoted, List.append_nil]
      · intro read
        rw [Token.scan, unquoted, List.append_nil]
        rfl
  | cons c line ih =>
      obtain ⟨segment, segments, hcut, hword, hspan⟩ := ih
      by_cases hquote : c = '"'
      · subst hquote
        refine ⟨[], segment :: segments, ?_, ?_, ?_⟩
        · rw [cut_cons_quote, hcut]
        · intro read
          rw [Token.scan, if_pos rfl, hspan, wordsFrom_nil_right, quoted]
          rfl
        · intro read
          rw [Token.scan, if_pos rfl, hword, wordsFrom_nil_left, unquoted]
          rw [List.append_nil]
          rfl
      · refine ⟨c :: segment, segments, ?_, ?_, ?_⟩
        · rw [cut_cons_other line hquote, hcut]
          rfl
        · intro read
          rw [Token.scan, if_neg hquote]
          cases hc : Text.isBlank c with
          | true =>
              rw [if_pos rfl, hword, wordsFrom_nil_left]
              rw [wordsFrom_cons_blank read segment hc, List.append_assoc]
          | false =>
              rw [if_neg (by simp), hword]
              rw [wordsFrom_cons_letter read segment hc]
        · intro read
          rw [Token.scan, if_neg hquote, hspan]
          simp

theorem ofLine_eq_tokens (line : List Char) : Token.ofLine line = tokens line := by
  obtain ⟨segment, segments, hcut, hword, _⟩ := scan_eq line
  rw [Token.ofLine, tokens, hcut, unquoted, hword, wordsFrom_nil_left]

/-- What the segment at a position contributes to the tokens of its line. -/
def contribution (segment : List Char) (position : Nat) : List (List Char) :=
  if position % 2 = 0 then words segment else [segment]

theorem flatMap_contribution (segments : List (List Char)) (position : Nat) :
    ((segments.zipIdx position).flatMap fun entry => contribution entry.1 entry.2) =
      if position % 2 = 0 then unquoted segments else quoted segments := by
  induction segments generalizing position with
  | nil => simp [unquoted, quoted]
  | cons segment segments ih =>
      rw [List.zipIdx_cons, List.flatMap_cons, ih]
      by_cases heven : position % 2 = 0
      · have hodd : ¬ (position + 1) % 2 = 0 := by omega
        simp only [contribution, if_pos heven, if_neg hodd, unquoted]
      · have hnext : (position + 1) % 2 = 0 := by omega
        simp only [contribution, if_neg heven, if_pos hnext, quoted]
        rfl

/-- Tokenizing reads the grammar: the line is cut at every quote, the segments at
even positions give their maximal runs and those at odd positions themselves. -/
theorem tokenize_eq_grammar (line : String) :
    tokenize line =
        (((line.toList.splitOn '"').zipIdx.flatMap fun entry =>
          if entry.2 % 2 = 0 then words entry.1 else [entry.1]).map String.ofList) ∧
      ∀ segment found, Runs segment found ↔ words segment = found := by
  constructor
  · have htokens := flatMap_contribution (cut line.toList) 0
    rw [if_pos rfl] at htokens
    unfold tokenize
    rw [ofLine_eq_tokens, tokens, ← htokens]
    rfl
  · exact runs_iff

example : tokenize "say \"a  b\"c \"" = ["say", "a  b", "c", ""] := by decide

end Segments
end CommandShell
