/-!
# Consoles

The shell and its commands talk to a console by calls.  A recorder keeps each call; a
terminal writes text with escape sequences.
-/

namespace CommandShell

inductive Color where
  | rgb (red green blue : UInt8)
  | indexed (index : UInt8)
  /-- The color of text that no color was set for. -/
  | standard
  | black
  | darkRed
  | darkGreen
  | darkYellow
  | darkBlue
  | darkMagenta
  | darkCyan
  | grey
  | darkGrey
  | red
  | green
  | yellow
  | blue
  | magenta
  | cyan
  | white
  deriving DecidableEq, Repr

namespace Color

def firebrick : Color := .rgb 178 34 34

def mediumSlateBlue : Color := .rgb 123 104 238

def warning : Color := .yellow

def error : Color := .red

end Color

inductive Call where
  | title (text : String)
  | write (text : String)
  | writeColored (text : String) (color : Color)
  | writeLine (text : String)
  | writeLineColored (text : String) (color : Color)
  | warning (text : String)
  | error (text : String)
  | clear
  deriving DecidableEq, Repr

namespace Call

/-- The call that a console without channels of their own for warnings and
errors makes instead: a line in the color of the channel. -/
def merged : Call → Call
  | warning text => writeLineColored text Color.warning
  | error text => writeLineColored text Color.error
  | call => call

def plainText : Call → String
  | title _ => ""
  | write text => text
  | writeColored text _ => text
  | writeLine text => text ++ "\n"
  | writeLineColored text _ => text ++ "\n"
  | warning text => text ++ "\n"
  | error text => text ++ "\n"
  | clear => ""

def line? : Call → Option String
  | writeLine text => some text
  | _ => none

end Call

/-- A console is the way it renders a call. -/
structure Console (Output : Type) where
  render : Call → Output

namespace Console

def recorder : Console Call := ⟨id⟩

def mergingRecorder : Console Call := ⟨Call.merged⟩

end Console

/-- What one read of a line can deliver, end of input apart. -/
inductive Input where
  | line (text : String)
  | failure (message : String)
  | interrupt
  deriving DecidableEq, Repr

/-! ## Recordings -/

structure Recording where
  input : List String := []
  calls : List Call := []
  deriving DecidableEq, Repr

namespace Recording

def record (recording : Recording) (call : Call) : Recording :=
  { recording with calls := recording.calls ++ [call] }

def readLine (recording : Recording) : Option String × Recording :=
  match recording.input with
  | [] => (none, recording)
  | line :: rest => (some line, { recording with input := rest })

def lines (recording : Recording) : List String :=
  recording.calls.filterMap Call.line?

def output (recording : Recording) : String :=
  String.join (recording.calls.map Call.plainText)

def clear (recording : Recording) : Recording :=
  { recording with calls := [] }

end Recording

/-! ## Terminals -/

structure Terminal where
  colors : Bool
  /-- Color sequences carry no parameters, so the text keeps its color. -/
  bareSequences : Bool := false
  deriving DecidableEq, Repr

namespace Terminal

def escape : String := "\x1b"

def bell : String := "\x07"

/-- The parameters that set a foreground color.  A named color other than the
standard one is one of the first sixteen of the palette. -/
def parameters : Color → String
  | .rgb red green blue =>
    "38;2;" ++ toString red.toNat ++ ";" ++ toString green.toNat ++ ";" ++ toString blue.toNat
  | .indexed index => "38;5;" ++ toString index.toNat
  | .standard => "39"
  | .black => "38;5;0"
  | .darkRed => "38;5;1"
  | .darkGreen => "38;5;2"
  | .darkYellow => "38;5;3"
  | .darkBlue => "38;5;4"
  | .darkMagenta => "38;5;5"
  | .darkCyan => "38;5;6"
  | .grey => "38;5;7"
  | .darkGrey => "38;5;8"
  | .red => "38;5;9"
  | .green => "38;5;10"
  | .yellow => "38;5;11"
  | .blue => "38;5;12"
  | .magenta => "38;5;13"
  | .cyan => "38;5;14"
  | .white => "38;5;15"

def graphics (parameters : String) : String :=
  escape ++ "[" ++ parameters ++ "m"

def reset : String := graphics "0"

def foreground (terminal : Terminal) (color : Color) : String :=
  graphics (if terminal.bareSequences then "" else parameters color)

def colored (terminal : Terminal) (text : String) (color : Color) : String :=
  if terminal.colors then terminal.foreground color ++ text ++ reset else text

def clearDisplay : String :=
  escape ++ "[2J" ++ escape ++ "[1;1H"

def write (terminal : Terminal) : Call → String
  | .title text => escape ++ "]0;" ++ text ++ bell
  | .write text => text
  | .writeColored text color => terminal.colored text color
  | .writeLine text => text ++ "\n"
  | .writeLineColored text color => terminal.colored text color ++ "\n"
  | .warning text => terminal.colored text Color.warning ++ "\n"
  | .error text => terminal.colored text Color.error ++ "\n"
  | .clear => clearDisplay

def console (terminal : Terminal) : Console String :=
  ⟨terminal.write⟩

/-- A terminal for a process whose `NO_COLOR` variable is as given: when it is
set and not empty, color sequences are bare. -/
def forEnvironment (colors : Bool) (noColor : Option String) : Terminal :=
  ⟨colors, noColor.any (!·.isEmpty)⟩

end Terminal

end CommandShell
