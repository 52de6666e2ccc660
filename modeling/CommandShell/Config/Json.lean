import CommandShell.Settings
import CommandShell.Text

/-!
# Configurations in JSON

A text can hold halves of surrogate pairs by escapes.  Such a text is kept as none, so that
it is refused only where its characters are asked for.
-/

namespace CommandShell

inductive Json where
  | null
  | bool (value : Bool)
  | number
  | text (characters : Option String)
  | array (elements : List Json)
  | object (members : List (Option String × Json))
  deriving Repr

namespace Json

def isSpace (c : Char) : Bool :=
  c = ' ' || c = '\t' || c = '\n' || c = '\r'

def skipSpace (cs : List Char) : List Char :=
  cs.dropWhile isSpace

/-- A character of a text, or the half of a surrogate pair. -/
inductive Piece where
  | char (c : Char)
  | half (unit : Nat)

def isHighHalf (unit : Nat) : Bool := 0xD800 ≤ unit && unit < 0xDC00

def isLowHalf (unit : Nat) : Bool := 0xDC00 ≤ unit && unit < 0xE000

def Piece.ofUnit (unit : Nat) : Piece :=
  if isHighHalf unit || isLowHalf unit then .half unit else .char (Char.ofNat unit)

def characters? : List Piece → Option (List Char)
  | [] => some []
  | .char c :: rest => (characters? rest).map (c :: ·)
  | .half high :: .half low :: rest =>
    if isHighHalf high && isLowHalf low then
      (characters? rest).map
        (Char.ofNat (0x10000 + (high - 0xD800) * 0x400 + (low - 0xDC00)) :: ·)
    else none
  | .half _ :: _ => none

def simpleEscape? : Char → Option Char
  | '"' => some '"'
  | '\\' => some '\\'
  | '/' => some '/'
  | 'b' => some '\x08'
  | 'f' => some '\x0c'
  | 'n' => some '\n'
  | 'r' => some '\r'
  | 't' => some '\t'
  | _ => none

def pieces : List Char → Option (List Piece × List Char)
  | [] => none
  | '"' :: rest => some ([], rest)
  | '\\' :: 'u' :: a :: b :: c :: d :: rest => do
    let unit ← Text.hexNumber? [a, b, c, d]
    let (following, rest) ← pieces rest
    return (Piece.ofUnit unit :: following, rest)
  | '\\' :: c :: rest => do
    let escaped ← simpleEscape? c
    let (following, rest) ← pieces rest
    return (.char escaped :: following, rest)
  | c :: rest =>
    if c = '\\' || c.toNat < 0x20 then none
    else do
      let (following, rest) ← pieces rest
      return (.char c :: following, rest)

def quotedText (cs : List Char) : Option (Option String × List Char) :=
  (pieces cs).map fun (found, rest) => ((characters? found).map String.ofList, rest)

def someDigits (cs : List Char) : Option (List Char) :=
  match cs with
  | [] => none
  | c :: rest => if c.isDigit then some (rest.dropWhile Char.isDigit) else none

def wholePart : List Char → Option (List Char)
  | '0' :: rest =>
    match rest with
    | [] => some []
    | c :: _ => if c.isDigit then none else some rest
  | cs => someDigits cs

def fractionPart : List Char → Option (List Char)
  | '.' :: rest => someDigits rest
  | cs => some cs

def exponentPart : List Char → Option (List Char)
  | c :: rest =>
    if c = 'e' || c = 'E' then
      match rest with
      | '+' :: rest => someDigits rest
      | '-' :: rest => someDigits rest
      | rest => someDigits rest
    else some (c :: rest)
  | [] => some []

def dropNumber (cs : List Char) : Option (List Char) := do
  let unsigned := match cs with
    | '-' :: rest => rest
    | cs => cs
  exponentPart (← fractionPart (← wholePart unsigned))

mutual

/-- A value and what follows it.  Every call takes at least every second time a
character, so twice the length of the text is fuel enough. -/
def value : Nat → List Char → Option (Json × List Char)
  | 0, _ => none
  | fuel + 1, cs =>
    match skipSpace cs with
    | [] => none
    | '"' :: rest => (quotedText rest).map fun (found, rest) => (.text found, rest)
    | '[' :: rest =>
      match skipSpace rest with
      | ']' :: rest => some (.array [], rest)
      | rest => (elements fuel rest).map fun (found, rest) => (.array found, rest)
    | '{' :: rest =>
      match skipSpace rest with
      | '}' :: rest => some (.object [], rest)
      | rest => (members fuel rest).map fun (found, rest) => (.object found, rest)
    | 'n' :: rest => (['u', 'l', 'l'].isPrefixOf? rest).map (.null, ·)
    | 't' :: rest => (['r', 'u', 'e'].isPrefixOf? rest).map (.bool true, ·)
    | 'f' :: rest => (['a', 'l', 's', 'e'].isPrefixOf? rest).map (.bool false, ·)
    | rest => (dropNumber rest).map (.number, ·)

def elements : Nat → List Char → Option (List Json × List Char)
  | 0, _ => none
  | fuel + 1, cs => do
    let (first, rest) ← value fuel cs
    match skipSpace rest with
    | ',' :: rest =>
      let (others, rest) ← elements fuel rest
      return (first :: others, rest)
    | ']' :: rest => return ([first], rest)
    | _ => none

def members : Nat → List Char → Option (List (Option String × Json) × List Char)
  | 0, _ => none
  | fuel + 1, cs =>
    match skipSpace cs with
    | '"' :: rest => do
      let (key, rest) ← quotedText rest
      match skipSpace rest with
      | ':' :: rest =>
        let (found, rest) ← value fuel rest
        match skipSpace rest with
        | ',' :: rest =>
          let (others, rest) ← members fuel rest
          return ((key, found) :: others, rest)
        | '}' :: rest => return ([(key, found)], rest)
        | _ => none
      | _ => none
    | _ => none

end

def parse? (content : String) : Option Json := do
  let cs := content.toList
  let (found, rest) ← value (2 * cs.length + 2) cs
  if (skipSpace rest).isEmpty then some found else none

end Json

/-! ## Sections in JSON -/

namespace Json

def optionalText? : Json → Option (Option String)
  | .null => some none
  | .text (some characters) => some (some characters)
  | _ => none

def textOnly? : Json → Option String
  | .text characters => characters
  | _ => none

def optionalTexts? : Json → Option (Option (List String))
  | .null => some none
  | .array elements => (elements.mapM textOnly?).map some
  | _ => none

def keys? (members : List (Option String × Json)) : Option (List (String × Json)) :=
  members.mapM fun (key, value) => key.map (·, value)

def member? (key : String) (members : List (String × Json)) : Option Json :=
  match members.filter fun entry => entry.1 = key with
  | [] => some .null
  | [(_, value)] => some value
  | _ => none

def sectionOfValues? (name version title prompt sources : Json) : Option Section := do
  return {
    appName := ← optionalText? name
    appVersion := ← optionalText? version
    consoleTitle := ← optionalText? title
    prompt := ← optionalText? prompt
    commandSources := ← optionalTexts? sources }

def section? : Json → Option Section
  | .object members => do
    let members ← keys? members
    sectionOfValues? (← member? "AppName" members) (← member? "AppVersion" members)
      (← member? "ConsoleTitle" members) (← member? "Prompt" members)
      (← member? "CommandSources" members)
  | .array values =>
    let element (index : Nat) := values.getD index .null
    if values.length ≤ 5 then
      sectionOfValues? (element 0) (element 1) (element 2) (element 3) (element 4)
    else none
  | _ => none

/-- The section of a whole configuration; none of it is an empty section. -/
def configuration? : Json → Option Section
  | .object members => do
    let members ← keys? members
    match members.filter fun entry => entry.1 = "ReplConsole" with
    | [] => some Section.empty
    | [(_, value)] => section? value
    | _ => none
  | .array [] => some Section.empty
  | .array [value] => section? value
  | _ => none

end Json

end CommandShell
