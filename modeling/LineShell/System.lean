import LineShell.Flags
import LineShell.Session
import LineShell.Settings.File

/-!
# The program

The program finds a system around it: a host for its commands, the files that may hold settings, and
a standard input, which may be a terminal. There it reads its flags, loads its settings and runs a
session on its standard streams, which take whatever is written. A refused flag comes before
everything; help and the version come before the log and the settings.
-/

namespace LineShell

/-- What the program finds when it starts. The editor is one that could be set up, or the reason why
it could not. Lines are read from `source` on, with the editor or without it. -/
structure System (Dir World Source : Type) where
  host : Host Dir World
  dir : Dir
  world : World
  home : Option String
  findSettings : String → SettingsFile.Found
  isTerminal : Bool
  input : ByteSource Source World
  editor : Except EditorError (LineSource Source World)
  source : Source

/-- How the program came to its end, with what was logged of the settings. -/
inductive Conclusion (Dir World Source : Type) where
  | refusedFlags (error : FlagError)
  | help (flags : Flags)
  | version
  | refusedLog
  | refusedSettings (threshold : Log.Threshold) (records : List Log.Record) (error : ConfigError)
  | session (threshold : Log.Threshold) (records : List Log.Record)
      (run : Session.Run Source Dir World)

/-- Whether lines are read through the editor: as the settings choose, unless a flag is against it. -/
def usesEditor (flags : Flags) (settings : Settings) (isTerminal : Bool) : Bool :=
  if flags.isSet "no-editor" then false
  else
    match settings.editor with
    | .on => true
    | .off => false
    | .auto => isTerminal

namespace System

variable {Dir World Source : Type}

def settingsLocation (flags : Flags) (home : Option String) : SettingsFile.Location :=
  match flags.value? "config" with
  | some path => .explicit path
  | none => .home home

/-- How a session reads its lines, unless the editor cannot be set up. -/
def lines (sys : System Dir World Source) (flags : Flags) (settings : Settings) :
    Except EditorError (LineSource Source World) :=
  if usesEditor flags settings sys.isTerminal then sys.editor.map (.cut settings.maxLine)
  else .ok (.buffered settings.maxLine sys.input)

/-- The state in which a session starts. -/
def state (sys : System Dir World Source) : State Dir World :=
  { dir := sys.dir, world := sys.world, out := .healthy, err := .healthy }

/-- Runs a session on the standard streams. -/
def session (sys : System Dir World Source) (flags : Flags) (settings : Settings) :
    Session.Run Source Dir World :=
  match sys.lines flags settings with
  | .error e => ⟨[], .error (.readline e), sys.source, sys.state⟩
  | .ok lines => Session.run (.ofSettings sys.host lines settings) sys.source sys.state

/-- Runs the program. It starts without a log. -/
def conclude (sys : System Dir World Source) (args : List String) : Conclusion Dir World Source :=
  match Flags.initial.parse args with
  | (_, .error e) => .refusedFlags e
  | (flags, .ok ()) =>
    if flags.isSet "help" then .help flags
    else if flags.isSet "version" then .version
    else
      match Log.install flags.threshold none with
      | none => .refusedLog
      | some threshold =>
        let loaded := SettingsFile.load (settingsLocation flags sys.home) sys.findSettings
        match loaded.result with
        | .error e => .refusedSettings threshold loaded.records e
        | .ok settings => .session threshold loaded.records (sys.session flags settings)

end System

namespace Conclusion

variable {Dir World Source : Type}

def error? : Conclusion Dir World Source → Option ShellError
  | .refusedFlags e => some (.flag e.message)
  | .help _ | .version => none
  | .refusedLog => some .logger
  | .refusedSettings _ _ e => some (.config e)
  | .session _ _ run =>
    match run.ending with
    | .ok _ => none
    | .error e => some e

def status (c : Conclusion Dir World Source) : Nat := if c.error?.isSome then 1 else 0

def versionText : String := shellName ++ " 0.0.1\n"

/-- What the program wrote before it came to its end. -/
def before (showLevel : Log.Level → String) :
    Conclusion Dir World Source → List (Stream × List UInt8)
  | .refusedFlags _ | .refusedLog => []
  | .help flags => [(.output, Text.Utf8.encode flags.helpText.toList)]
  | .version => [(.output, Text.Utf8.encode versionText.toList)]
  | .refusedSettings threshold records _ => Trace.standard threshold showLevel (records.map .logged)
  | .session threshold records run =>
    Trace.standard threshold showLevel (records.map .logged ++ run.events)

def written (showLevel : Log.Level → String) (c : Conclusion Dir World Source) :
    List (Stream × List UInt8) :=
  c.before showLevel ++
    c.error?.toList.map fun e =>
      (.error, Text.Utf8.encode ("Error: " ++ e.diagnosis ++ "\n").toList)

end Conclusion

end LineShell
