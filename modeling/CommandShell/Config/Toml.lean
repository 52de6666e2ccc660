import CommandShell.Settings
import CommandShell.Text

/-!
# Configurations in TOML

A configuration uses the texts of a document only, so numbers and times are checked and
not kept.
-/

namespace CommandShell

namespace Toml

def isBlank (c : Char) : Bool := c = ' ' || c = '\t'

def skipBlank (cs : List Char) : List Char := cs.dropWhile isBlank

def isCommentChar (c : Char) : Bool :=
  c = '\t' || (0x20 ≤ c.toNat && c.toNat ≠ 0x7F)

def newline? : List Char → Option (List Char)
  | '\n' :: rest => some rest
  | '\r' :: '\n' :: rest => some rest
  | _ => none

def isLiteralChar (c : Char) : Bool := isCommentChar c && c ≠ '\''

def isBasicChar (c : Char) : Bool := isCommentChar c && c ≠ '"' && c ≠ '\\'

def hexChar? (digits : List Char) : Option Char := do
  let code ← Text.hexNumber? digits
  if code < 0xD800 || (0xE000 ≤ code && code < 0x110000) then some (Char.ofNat code) else none

def simpleEscape? : Char → Option Char
  | 'b' => some '\x08'
  | 'f' => some '\x0c'
  | 'n' => some '\n'
  | 'r' => some '\r'
  | 't' => some '\t'
  | '"' => some '"'
  | '\\' => some '\\'
  | _ => none

def escape? : List Char → Option (Char × List Char)
  | 'u' :: a :: b :: c :: d :: rest => (hexChar? [a, b, c, d]).map (·, rest)
  | 'U' :: a :: b :: c :: d :: e :: f :: g :: h :: rest =>
    (hexChar? [a, b, c, d, e, f, g, h]).map (·, rest)
  | c :: rest => (simpleEscape? c).map (·, rest)
  | [] => none

def basic : Nat → List Char → Option (List Char × List Char)
  | 0, _ => none
  | _ + 1, [] => none
  | fuel + 1, c :: rest =>
    if c = '"' then some ([], rest)
    else if c = '\\' then do
      let (escaped, rest) ← escape? rest
      let (following, rest) ← basic fuel rest
      return (escaped :: following, rest)
    else if isBasicChar c then do
      let (following, rest) ← basic fuel rest
      return (c :: following, rest)
    else none

def literal : List Char → Option (List Char × List Char)
  | [] => none
  | c :: rest =>
    if c = '\'' then some ([], rest)
    else if isLiteralChar c then (literal rest).map fun (following, rest) => (c :: following, rest)
    else none

/-- What a run of quotes in a text of several lines means: fewer than three
belong to the text; otherwise three close it, and up to two before them belong
to the text. -/
inductive QuoteRun where
  | inside (quotes rest : List Char)
  | closing (quotes rest : List Char)

def quoteRun (quote : Char) (cs : List Char) : QuoteRun :=
  let run := cs.takeWhile (· = quote)
  let rest := cs.dropWhile (· = quote)
  if run.length < 3 then .inside run rest
  else
    let kept := min (run.length - 3) 2
    .closing (run.take kept) (run.drop (kept + 3) ++ rest)

def skipLines : Nat → List Char → List Char
  | 0, cs => cs
  | fuel + 1, cs =>
    match cs with
    | [] => []
    | c :: rest =>
      if isBlank c then skipLines fuel rest
      else match newline? (c :: rest) with
        | some rest => skipLines fuel rest
        | none => c :: rest

def basicLines : Nat → List Char → Option (List Char × List Char)
  | 0, _ => none
  | _ + 1, [] => none
  | fuel + 1, c :: rest =>
    if c = '"' then
      match quoteRun '"' (c :: rest) with
      | .closing quotes rest => some (quotes, rest)
      | .inside quotes rest =>
        (basicLines fuel rest).map fun (following, rest) => (quotes ++ following, rest)
    else if c = '\\' then
      match newline? (skipBlank rest) with
      | some rest => basicLines fuel (skipLines rest.length rest)
      | none => do
        let (escaped, rest) ← escape? rest
        let (following, rest) ← basicLines fuel rest
        return (escaped :: following, rest)
    else match newline? (c :: rest) with
      | some rest => (basicLines fuel rest).map fun (following, rest) => ('\n' :: following, rest)
      | none =>
        if isBasicChar c then
          (basicLines fuel rest).map fun (following, rest) => (c :: following, rest)
        else none

def literalLines : Nat → List Char → Option (List Char × List Char)
  | 0, _ => none
  | _ + 1, [] => none
  | fuel + 1, c :: rest =>
    if c = '\'' then
      match quoteRun '\'' (c :: rest) with
      | .closing quotes rest => some (quotes, rest)
      | .inside quotes rest =>
        (literalLines fuel rest).map fun (following, rest) => (quotes ++ following, rest)
    else match newline? (c :: rest) with
      | some rest => (literalLines fuel rest).map fun (following, rest) => ('\n' :: following, rest)
      | none =>
        if isLiteralChar c then
          (literalLines fuel rest).map fun (following, rest) => (c :: following, rest)
        else none

def afterOpening (cs : List Char) : List Char :=
  (newline? cs).getD cs

def lineText? : List Char → Option (List Char × List Char)
  | '"' :: rest => basic (rest.length + 1) rest
  | '\'' :: rest => literal rest
  | _ => none

def text? (cs : List Char) : Option (List Char × List Char) :=
  match cs with
  | '"' :: '"' :: '"' :: rest => basicLines (rest.length + 1) (afterOpening rest)
  | '\'' :: '\'' :: '\'' :: rest => literalLines (rest.length + 1) (afterOpening rest)
  | cs => lineText? cs

def isBareKeyChar (c : Char) : Bool :=
  c.isAlphanum || c = '_' || c = '-'

def keyPart? (cs : List Char) : Option (String × List Char) :=
  match cs with
  | [] => none
  | c :: rest =>
    if c = '"' || c = '\'' then
      (lineText? (c :: rest)).map fun (found, rest) => (String.ofList found, rest)
    else if isBareKeyChar c then
      some (String.ofList (cs.takeWhile isBareKeyChar), cs.dropWhile isBareKeyChar)
    else none

def keyParts : Nat → List Char → Option (List String × List Char)
  | 0, _ => none
  | fuel + 1, cs => do
    let (part, rest) ← keyPart? (skipBlank cs)
    match skipBlank rest with
    | '.' :: rest =>
      let (parts, rest) ← keyParts fuel rest
      return (part :: parts, rest)
    | rest => return ([part], rest)

/-- A key has fewer parts than this, and values lie in fewer values. -/
def nestingBound : Nat := 80

def key? (cs : List Char) : Option (List String × String × List Char) := do
  let (parts, rest) ← keyParts (cs.length + 1) cs
  if parts.length < nestingBound then
    let last ← parts.getLast?
    return (parts.dropLast, last, rest)
  else none

/-! ## TOML numbers and times -/

def digitGroup (isDigit : Char → Bool) : List Char → Option (List Char × List Char)
  | [] => none
  | c :: rest =>
    if isDigit c then
      match rest with
      | [] => some ([c], [])
      | '_' :: rest => (digitGroup isDigit rest).map fun (digits, rest) => (c :: digits, rest)
      | next :: rest =>
        if isDigit next then
          (digitGroup isDigit (next :: rest)).map fun (digits, rest) => (c :: digits, rest)
        else some ([c], next :: rest)
    else none

def wholeDigits : List Char → Option (List Char × List Char)
  | '0' :: rest => some (['0'], rest)
  | cs => digitGroup Char.isDigit cs

def isHexDigit (c : Char) : Bool := (Text.hexDigit? c).isSome

def isOctalDigit (c : Char) : Bool := '0' ≤ c && c ≤ '7'

def isBinaryDigit (c : Char) : Bool := c = '0' || c = '1'

def digitValue (c : Char) : Nat := (Text.hexDigit? c).getD 0

def number (radix : Nat) (digits : List Char) : Nat :=
  digits.foldl (fun value c => radix * value + digitValue c) 0

def integerBound : Nat := Nat.pow 2 63

def dropRadixInteger (radix : Nat) (isDigit : Char → Bool) (cs : List Char) :
    Option (List Char) := do
  let (digits, rest) ← digitGroup isDigit cs
  if number radix digits < integerBound then some rest else none

/-- Whether digits times a power of ten round to more than the greatest float.
The powers that decide at a glance are taken first. -/
def isInfinite (digits : List Char) (exponent : Int) : Bool :=
  let significant := digits.dropWhile (· = '0')
  let magnitude := (significant.length : Int) + exponent
  if significant.isEmpty || magnitude < 308 then false
  else if 310 < magnitude then true
  else
    let bound := (Nat.pow 2 54 - 1) * Nat.pow 2 970
    let mantissa := number 10 significant
    if 0 ≤ exponent then bound ≤ mantissa * Nat.pow 10 exponent.toNat
    else bound * Nat.pow 10 (-exponent).toNat ≤ mantissa

def exponentPart (cs : List Char) : Option (Int × List Char) := do
  let (negative, cs) := match cs with
    | '-' :: rest => (true, rest)
    | '+' :: rest => (false, rest)
    | cs => (false, cs)
  let (digits, rest) ← digitGroup Char.isDigit cs
  let size : Int := number 10 digits
  return (if negative then -size else size, rest)

def isExponentMark (c : Char) : Bool := c = 'e' || c = 'E'

def optionalExponent (cs : List Char) : Option (Int × List Char) :=
  match cs with
  | [] => some (0, [])
  | c :: rest => if isExponentMark c then exponentPart rest else some (0, c :: rest)

def finite (negative : Bool) (digits : List Char) (exponent : Int) (rest : List Char) :
    Option (List Char) :=
  if !negative && isInfinite digits exponent then none else some rest

def dropUnsigned (negative : Bool) (cs : List Char) : Option (List Char) := do
  let (whole, rest) ← wholeDigits cs
  match rest with
  | '.' :: rest =>
    let (fraction, rest) ← digitGroup Char.isDigit rest
    let (exponent, rest) ← optionalExponent rest
    finite negative (whole ++ fraction) (exponent - fraction.length) rest
  | rest =>
    match rest with
    | c :: after =>
      if isExponentMark c then
        let (exponent, rest) ← exponentPart after
        finite negative whole exponent rest
      else integer whole rest
    | [] => integer whole []
where
  integer (whole rest : List Char) : Option (List Char) :=
    let value := number 10 whole
    if value < integerBound || (negative && value = integerBound) then some rest else none

def dropSigned (negative : Bool) (cs : List Char) : Option (List Char) :=
  match ['i', 'n', 'f'].isPrefixOf? cs with
  | some rest => some rest
  | none =>
    match ['n', 'a', 'n'].isPrefixOf? cs with
    | some rest => some rest
    | none => dropUnsigned negative cs

def dropNumber : List Char → Option (List Char)
  | '+' :: rest => dropSigned false rest
  | '-' :: rest => dropSigned true rest
  | '0' :: 'x' :: rest => dropRadixInteger 16 isHexDigit rest
  | '0' :: 'o' :: rest => dropRadixInteger 8 isOctalDigit rest
  | '0' :: 'b' :: rest => dropRadixInteger 2 isBinaryDigit rest
  | cs => dropSigned false cs

def twoDigits (low high : Nat) : List Char → Option (Nat × List Char)
  | a :: b :: rest =>
    if a.isDigit && b.isDigit then
      let value := number 10 [a, b]
      if low ≤ value && value ≤ high then some (value, rest) else none
    else none
  | _ => none

def dropChar (expected : Char) : List Char → Option (List Char)
  | [] => none
  | c :: rest => if c = expected then some rest else none

def isLeapYear (year : Nat) : Bool :=
  year % 4 = 0 && (year % 100 ≠ 0 || year % 400 = 0)

def daysInMonth (year month : Nat) : Nat :=
  if month = 2 then (if isLeapYear year then 29 else 28)
  else if month = 4 || month = 6 || month = 9 || month = 11 then 30
  else 31

def dropDate : List Char → Option (List Char)
  | a :: b :: c :: d :: rest => do
    if !(a.isDigit && b.isDigit && c.isDigit && d.isDigit) then none
    let year := number 10 [a, b, c, d]
    let rest ← dropChar '-' rest
    let (month, rest) ← twoDigits 1 12 rest
    let rest ← dropChar '-' rest
    let (day, rest) ← twoDigits 1 31 rest
    if day ≤ daysInMonth year month then some rest else none
  | _ => none

def dropFraction : List Char → List Char
  | '.' :: rest =>
    match rest with
    | [] => ['.']
    | c :: _ => if c.isDigit then rest.dropWhile Char.isDigit else '.' :: rest
  | cs => cs

def dropTime (cs : List Char) : Option (List Char) := do
  let (_, rest) ← twoDigits 0 23 cs
  let rest ← dropChar ':' rest
  let (_, rest) ← twoDigits 0 59 rest
  let rest ← dropChar ':' rest
  let (_, rest) ← twoDigits 0 60 rest
  return dropFraction rest

def dropOffset : List Char → Option (List Char)
  | [] => some []
  | c :: rest =>
    if c = 'Z' || c = 'z' then some rest
    else if c = '+' || c = '-' then do
      let (_, rest) ← twoDigits 0 23 rest
      let rest ← dropChar ':' rest
      let (_, rest) ← twoDigits 0 59 rest
      return rest
    else some (c :: rest)

def dropDateTime (cs : List Char) : Option (List Char) := do
  let rest ← dropDate cs
  match rest with
  | [] => return []
  | c :: after =>
    if c = 'T' || c = 't' || c = ' ' then
      match dropTime after with
      | some rest => dropOffset rest
      | none => return rest
    else return rest

def dropMoment (cs : List Char) : Option (List Char) :=
  match dropDateTime cs with
  | some rest => some rest
  | none => dropTime cs

end Toml

/-! ## TOML values -/

/-- A value of TOML.  Of numbers and truth values only their presence is
kept. -/
inductive Toml where
  | text (characters : String)
  | dateTime
  | scalar
  | array (elements : List Toml)
  /-- A table in braces, which nothing extends. -/
  | inlineTable (entries : List (String × Toml))
  /-- A table that headers or dotted keys opened.  It is implicit until a header
  of its own defines it. -/
  | table (implicit dotted : Bool) (entries : List (String × Toml))
  | tables (elements : List (List (String × Toml)))
  deriving Repr

namespace Toml

structure OpenTable where
  implicit : Bool := false
  dotted : Bool := false
  entries : List (String × Toml) := []

namespace OpenTable

def close (table : OpenTable) : Toml :=
  .table table.implicit table.dotted table.entries

def get? (table : OpenTable) (key : String) : Option Toml :=
  table.entries.lookup key

def put (table : OpenTable) (key : String) (value : Toml) : OpenTable :=
  let entries :=
    if (table.get? key).isSome then
      table.entries.map fun entry => if entry.1 = key then (key, value) else entry
    else table.entries ++ [(key, value)]
  { table with entries := entries }

def remove (table : OpenTable) (key : String) : OpenTable :=
  { table with entries := table.entries.filter fun entry => entry.1 ≠ key }

/-- Changes the table to which a path leads, opening implicit tables on the way.
The way of a dotted key does not enter a table that a header defined.  Of the
tables of one header the last is meant. -/
def update (dotted : Bool) (change : OpenTable → Option OpenTable) :
    List String → OpenTable → Option OpenTable
  | [], opened => change opened
  | key :: path, opened =>
    match opened.get? key with
    | none => do
      let inner ← update dotted change path ⟨true, dotted, []⟩
      return opened.put key inner.close
    | some (.table implicit wasDotted entries) =>
      if dotted && !implicit then none
      else do
        let inner ← update dotted change path ⟨implicit, wasDotted, entries⟩
        return opened.put key inner.close
    | some (.tables elements) => do
      let last ← elements.getLast?
      let inner ← update dotted change path ⟨false, false, last⟩
      return opened.put key (.tables (elements.dropLast ++ [inner.entries]))
    | some _ => none

/-- Gives a new key its value.  A key with dots only enters tables that dotted
keys opened. -/
def assign (path : List String) (key : String) (value : Toml) :
    OpenTable → Option OpenTable :=
  update true (fun table =>
    if table.dotted = path.isEmpty || (table.get? key).isSome then none
    else some (table.put key value)) path

end OpenTable

def skipGaps : Nat → List Char → List Char
  | 0, cs => cs
  | fuel + 1, cs =>
    match cs with
    | [] => []
    | '#' :: rest =>
      match newline? (rest.dropWhile isCommentChar) with
      | some rest => skipGaps fuel rest
      | none => '#' :: rest
    | c :: rest =>
      if isBlank c then skipGaps fuel rest
      else match newline? (c :: rest) with
        | some rest => skipGaps fuel rest
        | none => c :: rest

def isNumberStart (c : Char) : Bool :=
  c.isDigit || c = '+' || c = '-'

def scalar? (cs : List Char) : Option (Toml × List Char) :=
  match dropMoment cs with
  | some rest => some (.dateTime, rest)
  | none => (dropNumber cs).map (.scalar, ·)

def word? (cs : List Char) : Option (Toml × List Char) :=
  [['t', 'r', 'u', 'e'], ['f', 'a', 'l', 's', 'e'], ['i', 'n', 'f'], ['n', 'a', 'n']].findSome?
    fun word => (word.isPrefixOf? cs).map (.scalar, ·)

mutual

/-- A value that lies in fewer than `nestingBound - depth` others, and what
follows it.  Every second call takes a character, so twice the length of the
text is fuel enough. -/
def value : Nat → Nat → List Char → Option (Toml × List Char)
  | 0, _, _ => none
  | _ + 1, _, [] => none
  | fuel + 1, depth, c :: rest =>
    if c = '"' || c = '\'' then
      (text? (c :: rest)).map fun (found, rest) => (.text (String.ofList found), rest)
    else if c = '[' then
      match depth with
      | 0 => none
      | depth + 1 =>
        match skipGaps rest.length rest with
        | ']' :: rest => some (.array [], rest)
        | rest => (elements fuel depth rest).map fun (found, rest) => (.array found, rest)
    else if c = '{' then
      match depth with
      | 0 => none
      | depth + 1 =>
        match skipBlank rest with
        | '}' :: rest => some (.inlineTable [], rest)
        | rest =>
          (members fuel depth {} rest).map fun (filled, rest) =>
            (.inlineTable filled.entries, rest)
    else if isNumberStart c then scalar? (c :: rest)
    else word? (c :: rest)

def elements : Nat → Nat → List Char → Option (List Toml × List Char)
  | 0, _, _ => none
  | fuel + 1, depth, cs => do
    let (first, rest) ← value fuel depth (skipGaps cs.length cs)
    match skipGaps rest.length rest with
    | ']' :: rest => return ([first], rest)
    | ',' :: rest =>
      match skipGaps rest.length rest with
      | ']' :: rest => return ([first], rest)
      | rest =>
        let (others, rest) ← elements fuel depth rest
        return (first :: others, rest)
    | _ => none

def members : Nat → Nat → OpenTable → List Char → Option (OpenTable × List Char)
  | 0, _, _, _ => none
  | fuel + 1, depth, opened, cs => do
    let (path, key, rest) ← key? cs
    let rest ← dropChar '=' rest
    let (found, rest) ← value fuel depth (skipBlank rest)
    let opened ← opened.assign path key found
    match skipBlank rest with
    | '}' :: rest => return (opened, rest)
    | ',' :: rest => members fuel depth opened rest
    | _ => none

end

end Toml

/-! ## TOML documents -/

namespace Toml

/-- Where the table that is being filled belongs. -/
inductive Place where
  | root
  | table (path : List String) (key : String)
  | element (path : List String) (key : String)

structure Document where
  /-- What the tables before the current one have made. -/
  root : OpenTable := {}
  current : OpenTable := {}
  place : Place := .root

namespace Document

def close (document : Document) : Option OpenTable :=
  match document.place with
  | .root => some document.current
  | .table path key =>
    OpenTable.update false (fun parent =>
      match parent.get? key with
      | none => some (parent.put key document.current.close)
      | some (.table true _ _) => some (parent.put key document.current.close)
      | some _ => none) path document.root
  | .element path key =>
    OpenTable.update false (fun parent =>
      match parent.get? key with
      | none => some (parent.put key (.tables [document.current.entries]))
      | some (.tables elements) =>
        some (parent.put key (.tables (elements ++ [document.current.entries])))
      | some _ => none) path document.root

/-- The entries of the implicit table that a header turns into a table of its
own, or none when the header may not open its table. -/
def adopted? (root : OpenTable) (path : List String) (key : String) :
    Option (List (String × Toml)) := do
  let parent ← lookup path root
  match parent.get? key with
  | none => return []
  | some (.table true false entries) => return entries
  | some _ => none
where
  lookup : List String → OpenTable → Option OpenTable
    | [], opened => some opened
    | key :: path, opened =>
      match opened.get? key with
      | none => some {}
      | some (.table implicit dotted entries) => lookup path ⟨implicit, dotted, entries⟩
      | some (.tables elements) => do
        let last ← elements.getLast?
        lookup path ⟨false, false, last⟩
      | some _ => none

def openTable (document : Document) (path : List String) (key : String) :
    Option Document := do
  let root ← document.close
  let entries ← adopted? root path key
  let root ← OpenTable.update false (fun parent => some (parent.remove key)) path root
  return ⟨root, ⟨false, false, entries⟩, .table path key⟩

def openElement (document : Document) (path : List String) (key : String) :
    Option Document := do
  let root ← document.close
  let root ← OpenTable.update false (fun parent =>
    match parent.get? key with
    | none => some (parent.put key (.tables []))
    | some (.tables _) => some parent
    | some _ => none) path root
  return ⟨root, {}, .element path key⟩

def assign (document : Document) (path : List String) (key : String) (found : Toml) :
    Option Document := do
  return { document with current := ← document.current.assign path key found }

end Document

def lineEnd? (cs : List Char) : Option (List Char) :=
  let rest := match skipBlank cs with
    | '#' :: rest => rest.dropWhile isCommentChar
    | rest => rest
  if rest.isEmpty then some [] else newline? rest

def statement? (document : Document) (cs : List Char) : Option (Document × List Char) :=
  match cs with
  | '[' :: '[' :: rest => do
    let (path, key, rest) ← key? rest
    let rest ← [']', ']'].isPrefixOf? rest
    return (← document.openElement path key, ← lineEnd? rest)
  | '[' :: rest => do
    let (path, key, rest) ← key? rest
    let rest ← dropChar ']' rest
    return (← document.openTable path key, ← lineEnd? rest)
  | cs => do
    let (path, key, rest) ← key? cs
    let rest ← dropChar '=' rest
    let rest := skipBlank rest
    let (found, rest) ← value (2 * rest.length + 2) (nestingBound - 1) rest
    return (← document.assign path key found, ← lineEnd? rest)

def lines : Nat → Document → List Char → Option Document
  | 0, _, _ => none
  | fuel + 1, document, cs =>
    match skipBlank cs with
    | [] => some document
    | c :: rest =>
      if c = '#' || c = '\n' || c = '\r' then
        (lineEnd? (c :: rest)).bind (lines fuel document)
      else
        (statement? document (c :: rest)).bind fun (document, rest) =>
          lines fuel document rest

def byteOrderMark : Char := '\ufeff'

def parse? (content : String) : Option (List (String × Toml)) := do
  let cs := match content.toList with
    | [] => []
    | c :: rest => if c = byteOrderMark then rest else c :: rest
  let document ← lines (cs.length + 1) {} cs
  let root ← document.close
  return root.entries

/-! ## Sections in TOML -/

def textOnly? : Toml → Option String
  | .text characters => some characters
  | _ => none

def textsOnly? : Toml → Option (List String)
  | .array elements => elements.mapM textOnly?
  | _ => none

def optional? {α : Type} (read : Toml → Option α) : Option Toml → Option (Option α)
  | none => some none
  | some value => (read value).map some

def sectionOfValues? (name version title prompt sources : Option Toml) : Option Section := do
  return {
    appName := ← optional? textOnly? name
    appVersion := ← optional? textOnly? version
    consoleTitle := ← optional? textOnly? title
    prompt := ← optional? textOnly? prompt
    commandSources := ← optional? textsOnly? sources }

def sectionOfEntries? (entries : List (String × Toml)) : Option Section :=
  sectionOfValues? (entries.lookup "AppName") (entries.lookup "AppVersion")
    (entries.lookup "ConsoleTitle") (entries.lookup "Prompt")
    (entries.lookup "CommandSources")

def section? : Toml → Option Section
  | .table _ _ entries => sectionOfEntries? entries
  | .inlineTable entries => sectionOfEntries? entries
  | .array values => sectionOfValues? values[0]? values[1]? values[2]? values[3]? values[4]?
  | .dateTime => some Section.empty
  | _ => none

def configuration? (root : List (String × Toml)) : Option Section :=
  match root.lookup "ReplConsole" with
  | none => some Section.empty
  | some value => section? value

end Toml

end CommandShell
