import LineShell.Line.Split
import LineShell.Settings.Limit
import LineShell.Text.Quoted

/-!
# Settings

What an operator may choose before a session starts, the keys that name the choices, and what
happens when a text is assigned to a key.
-/

namespace LineShell

/-- When lines are read through the line editor. -/
inductive EditorMode where
  | auto
  | on
  | off
  deriving DecidableEq, Repr

namespace EditorMode

def name : EditorMode → String
  | .auto => "auto"
  | .on => "on"
  | .off => "off"

def ofName? : String → Option EditorMode
  | "auto" => some .auto
  | "on" => some .on
  | "off" => some .off
  | _ => none

@[simp] theorem ofName?_name (mode : EditorMode) : ofName? mode.name = some mode := by
  cases mode <;> rfl

end EditorMode

/-- The choices of an operator. The bytes of a line and the slots of an argument vector count an end
mark. -/
structure Settings where
  prompt : String := "krsh> "
  maxLine : Nat := 1024
  maxArgs : Nat := 64
  split : SplitMode := .whitespace
  editor : EditorMode := .auto
  deriving DecidableEq, Repr

/-- The choices by their names. -/
inductive SettingKey where
  | prompt
  | maxLine
  | maxArgs
  | split
  | editor
  deriving DecidableEq, Repr

namespace SettingKey

def name : SettingKey → String
  | .prompt => "prompt"
  | .maxLine => "max_line"
  | .maxArgs => "max_args"
  | .split => "split"
  | .editor => "editor"

def ofName? : String → Option SettingKey
  | "prompt" => some .prompt
  | "max_line" => some .maxLine
  | "max_args" => some .maxArgs
  | "split" => some .split
  | "editor" => some .editor
  | _ => none

@[simp] theorem ofName?_name (key : SettingKey) : ofName? key.name = some key := by
  cases key <;> rfl

end SettingKey

/-- What keeps a text from being the value of a key. -/
inductive ValueFault where
  | limit (fault : LimitFault)
  | unknownSplitMode (text : String)
  | unknownEditorMode (text : String)
  deriving DecidableEq, Repr

/-- The reason that the operator reads. -/
def ValueFault.message : ValueFault → String
  | .limit fault => fault.message
  | .unknownSplitMode text => "unknown split mode: " ++ text
  | .unknownEditorMode text => "expected auto, on or off, got " ++ text

def SplitMode.parse (text : String) : Except ValueFault SplitMode :=
  match SplitMode.ofName? text with
  | some mode => .ok mode
  | none => .error (.unknownSplitMode text)

def EditorMode.parse (text : String) : Except ValueFault EditorMode :=
  match EditorMode.ofName? text with
  | some mode => .ok mode
  | none => .error (.unknownEditorMode text)

inductive SettingError where
  | unknownKey (key : String)
  | invalidValue (key value : String) (fault : ValueFault)
  deriving DecidableEq, Repr

namespace Settings

def assign (s : Settings) (value : String) : SettingKey → Except ValueFault Settings
  | .prompt => .ok { s with prompt := value }
  | .maxLine => ((Limit.parse value).mapError .limit).map fun n => { s with maxLine := n }
  | .maxArgs => ((Limit.parse value).mapError .limit).map fun n => { s with maxArgs := n }
  | .split => (SplitMode.parse value).map fun mode => { s with split := mode }
  | .editor => (EditorMode.parse value).map fun mode => { s with editor := mode }

/-- The settings after a text is assigned to what a name stands for. -/
def set (s : Settings) (key value : String) : Except SettingError Settings :=
  match SettingKey.ofName? key with
  | none => .error (.unknownKey key)
  | some k => (s.assign value k).mapError (.invalidValue key value)

/-- The settings after one call, which stay as they were when it is refused. -/
def trySet (s : Settings) (key value : String) : Settings :=
  match s.set key value with
  | .ok changed => changed
  | .error _ => s

end Settings

end LineShell
