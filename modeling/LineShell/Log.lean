/-!
# Log records

A record has a level and a message. Records are shown up to a threshold that the operator chooses.
-/

namespace LineShell

def shellName : String := "krsh"

namespace Log

inductive Level where
  | error
  | warn
  | info
  | debug
  | trace
  deriving DecidableEq, Repr

namespace Level

def name : Level → String
  | .error => "error"
  | .warn => "warn"
  | .info => "info"
  | .debug => "debug"
  | .trace => "trace"

def rank : Level → Nat
  | .error => 1
  | .warn => 2
  | .info => 3
  | .debug => 4
  | .trace => 5

end Level

/-- Which records are shown. -/
inductive Threshold where
  | off
  | upTo (level : Level)
  deriving DecidableEq, Repr

namespace Threshold

def admits : Threshold → Level → Bool
  | .off, _ => false
  | .upTo most, level => level.rank ≤ most.rank

/-- The threshold that the flags for quiet and debug ask for; quiet wins. -/
def ofFlags (quiet debug : Bool) : Threshold :=
  if quiet then .off else if debug then .upTo .debug else .upTo .warn

end Threshold

/-- Sets up the log of a process, which may have one. It can be set up once. -/
def install (threshold : Threshold) : Option Threshold → Option Threshold
  | none => some threshold
  | some _ => none

structure Record where
  level : Level
  message : String
  deriving DecidableEq, Repr

def Record.line (showLevel : Level → String) (r : Record) : String :=
  shellName ++ ": " ++ showLevel r.level ++ ": " ++ r.message ++ "\n"

/-- The text shown for a record; none below the threshold. -/
def Record.text (threshold : Threshold) (showLevel : Level → String) (r : Record) : String :=
  if threshold.admits r.level then r.line showLevel else ""

def debug (message : String) : Record := ⟨.debug, message⟩
def info (message : String) : Record := ⟨.info, message⟩
def warn (message : String) : Record := ⟨.warn, message⟩

end Log

end LineShell
