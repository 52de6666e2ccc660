import CommandShell.Text

/-!
# Command lines

A line is scanned in one pass.  Outside quotes, tokens are the runs of characters between
blanks; a double quote opens or closes a span, and a span is one token, verbatim, even
when it is empty or its closing quote is missing.
-/

namespace CommandShell

namespace Token

/-- What the scanner has read of the token at hand, latest character first. -/
inductive Pending where
  /-- Outside quotes; no character means no token has begun. -/
  | word (read : List Char)
  | span (read : List Char)
  deriving DecidableEq, Repr

def Pending.flush : Pending → List (List Char)
  | .word [] => []
  | .word read => [read.reverse]
  | .span read => [read.reverse]

def scan : Pending → List Char → List (List Char)
  | pending, [] => pending.flush
  | .word read, c :: rest =>
    if c = '"' then Pending.flush (.word read) ++ scan (.span []) rest
    else if Text.isBlank c then Pending.flush (.word read) ++ scan (.word []) rest
    else scan (.word (c :: read)) rest
  | .span read, c :: rest =>
    if c = '"' then Pending.flush (.span read) ++ scan (.word []) rest
    else scan (.span (c :: read)) rest

def ofLine (line : List Char) : List (List Char) :=
  scan (.word []) line

end Token

def tokenize (line : String) : List String :=
  (Token.ofLine line.toList).map String.ofList

structure CommandLine where
  command : String
  args : List String
  deriving DecidableEq, Repr

namespace CommandLine

def ofTokens? : List String → Option CommandLine
  | [] => none
  | command :: args => some ⟨command, args⟩

/-- The command line that `line` spells; none when it has no token. -/
def parse? (line : String) : Option CommandLine :=
  ofTokens? (tokenize line)

end CommandLine

/-! ## Segments of a line -/

namespace Segments

def cut (line : List Char) : List (List Char) :=
  line.splitOn '"'

def words (segment : List Char) : List (List Char) :=
  (segment.splitOnP Text.isBlank).filter (!·.isEmpty)

/-- The maximal runs of a text, in order: blanks may stand before and after each
run, and a run ends where the text ends or a blank stands. -/
inductive Runs : List Char → List (List Char) → Prop
  | none {gap : List Char} :
      (∀ c ∈ gap, Text.isBlank c = true) → Runs gap []
  | next {gap run rest : List Char} {found : List (List Char)} :
      (∀ c ∈ gap, Text.isBlank c = true) →
      run ≠ [] → (∀ c ∈ run, Text.isBlank c = false) →
      (∀ c ∈ rest.head?, Text.isBlank c = true) →
      Runs rest found → Runs (gap ++ run ++ rest) (run :: found)

mutual

def unquoted : List (List Char) → List (List Char)
  | [] => []
  | segment :: segments => words segment ++ quoted segments

def quoted : List (List Char) → List (List Char)
  | [] => []
  | segment :: segments => segment :: unquoted segments

end

/-- The tokens of a line by its segments. -/
def tokens (line : List Char) : List (List Char) :=
  unquoted (cut line)

end Segments

end CommandShell
