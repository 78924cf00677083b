import LineShell.Highlight
import LineShell.StandardInput
import LineShell.System

/-!
# The program on a machine

A machine in memory as a system for the program. Its standard input is no terminal.
-/

namespace LineShell.Program

/-- The terminals on which the editor cannot work. -/
def plainTerminals : List String := ["dumb", "cons25", "emacs"]

/-- Whether the terminal cannot edit, so that prompts are written plainly. -/
def isPlainTerminal (environment : Environment) : Bool :=
  match environment.text? "TERM" with
  | none => false
  | some name => plainTerminals.contains (String.ofList (name.toList.map Char.toLower))

def showLevel (m : Machine) : Log.Level → String :=
  Highlight.level (Highlight.coloursIn m.environment)

/-- What the program finds on a machine. Reading on after its input may meet a failure. -/
def system (m : Machine) (dir : Machine.NodeId) (failure : Option ReadFailure) :
    System Machine.NodeId Machine StandardInput where
  host := Machine.host
  dir := dir
  world := m
  home := some m.home
  findSettings := m.findSettings dir
  isTerminal := false
  input := StandardInput.chunks
  editor := .ok (StandardInput.editor (isPlainTerminal m.environment))
  source := StandardInput.start m failure

/-- Runs a session on the standard streams of a machine. -/
def start (flags : Flags) (settings : Settings) (m : Machine) (dir : Machine.NodeId) :
    Session.Run StandardInput Machine.NodeId Machine := (system m dir none).session flags settings

/-- The path of the settings that the arguments ask for. -/
def settingsPath? (args : List String) (m : Machine) : Option String :=
  (System.settingsLocation (Flags.initial.parse args).1 (some m.home)).path

def run (args : List String) (m : Machine) (dir : Machine.NodeId)
    (failure : Option ReadFailure := none) :
    Conclusion Machine.NodeId Machine StandardInput := (system m dir failure).conclude args

end LineShell.Program
