import LineShell.Environment
import LineShell.Log
import LineShell.Text.Blank

/-!
# Highlighting

On a terminal that shows colours, the command of a line stands out from its flags, and a log level
from its message. What is typed stays as typed: only escape sequences are added around words.
-/

namespace LineShell

inductive Colour where
  | red
  | green
  | yellow
  | blue
  | cyan
  | grey
  deriving DecidableEq, Repr

def escapeCharacter : Char := '\x1b'

def escapeSequence (parameters : String) : List Char :=
  escapeCharacter :: '[' :: parameters.toList ++ ['m']

/-- The parameters that choose a colour for what follows. -/
def Colour.parameters : Colour → String
  | .red => "31"
  | .green => "32"
  | .yellow => "33"
  | .blue => "34"
  | .cyan => "36"
  | .grey => "38;2;128;128;128"

structure Style where
  foreground : Colour
  bold : Bool
  deriving DecidableEq, Repr

/-- The text in a style, with the plain style restored after it. -/
def Style.paint (style : Style) (text : List Char) : List Char :=
  escapeSequence style.foreground.parameters ++
    (if style.bold then escapeSequence "1" else []) ++ text ++ escapeSequence "0"

namespace Highlight

def commandStyle : Style := ⟨.cyan, true⟩

def flagStyle : Style := ⟨.yellow, false⟩

def levelStyle : Log.Level → Style
  | .error => ⟨.red, true⟩
  | .warn => ⟨.yellow, true⟩
  | .info => ⟨.green, true⟩
  | .debug => ⟨.blue, true⟩
  | .trace => ⟨.grey, true⟩

/-- One word painted. The first word of a line is its command. -/
def paintWord (commandSeen : Bool) (word : List Char) : List Char :=
  if word.isEmpty then []
  else if !commandSeen then commandStyle.paint word
  else if word.head? = some '-' then flagStyle.paint word
  else word

/-- Paints the rest of a line whose last word so far, in reverse, is `word`. -/
def paintFrom (commandSeen : Bool) (word : List Char) : List Char → List Char
  | [] => paintWord commandSeen word.reverse
  | c :: rest =>
    if Text.isBlank c then
      paintWord commandSeen word.reverse ++ c :: paintFrom (commandSeen || !word.isEmpty) [] rest
    else paintFrom commandSeen (c :: word) rest

def line (colours : Bool) (text : String) : String :=
  if colours then String.ofList (paintFrom false [] text.toList) else text

def level (colours : Bool) (level : Log.Level) : String :=
  if colours then String.ofList ((levelStyle level).paint level.name.toList) else level.name

/-- Terminals that show colours, by a part of their name. -/
def colourTerminals : List String :=
  ["konsole", "tmux", "alacritty", "kitty", "terminator", "terminology", "eterm", "rxvt-unicode",
    "vte", "termious", "256", "color", "ansi", "xterm", "screen"]

/-- Programs around a terminal that show colours. -/
def colourPrograms : List String := ["iTerm.app", "Apple_Terminal", "Hyper"]

/-- The lower case of a character as far as it gives ASCII letters. -/
def lowerCase (c : Char) : List Char :=
  if c = '\u212A' then ['k'] else if c = '\u0130' then ['i', '\u0307'] else [c.toLower]

def occursIn (part : List Char) : List Char → Bool
  | [] => part.isEmpty
  | c :: rest => part.isPrefixOf (c :: rest) || occursIn part rest

/-- Whether the environment asks for colours. A wish for none wins. -/
def coloursIn (env : Environment) : Bool :=
  let refused := (env.text? "NO_COLOR").isSome || env.text? "CLICOLOR" = some "0"
  let trueColour := ((env.text? "COLORTERM").map fun text =>
    occursIn "truecolor".toList text.toList || occursIn "24bit".toList text.toList).getD false
  let knownTerminal := ((env.text? "TERM").map fun text =>
    let name := text.toList.flatMap lowerCase
    colourTerminals.any fun part => occursIn part.toList name).getD false
  let knownProgram := ((env.text? "TERM_PROGRAM").map fun text =>
    colourPrograms.contains text).getD false
  let forced := env.text? "CLICOLOR_FORCE" = some "1"
  !refused && (trueColour || knownTerminal || knownProgram || forced)

end Highlight

end LineShell
