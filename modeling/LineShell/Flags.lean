import LineShell.Log

/-!
# Command line flags

A flag has a short and a long spelling; one of them also takes the argument after it as its value.
The flags are a table of entries, each with the value it has been given so far.
-/

namespace LineShell

/-- One row of the table of flags. -/
structure Flag where
  name : String
  short : String
  long : String
  description : String
  takesValue : Bool := false
  value : Option String := none
  deriving DecidableEq, Repr

namespace Flag

def isSpelled (flag : Flag) (arg : String) : Bool := arg == flag.short || arg == flag.long

def helpLine (flag : Flag) : String :=
  let long := if flag.takesValue then flag.long ++ " <path>" else flag.long
  let padding := String.ofList (List.replicate (18 - long.length) ' ')
  "  " ++ flag.short ++ ", " ++ long ++ padding ++ " " ++ flag.description ++ "\n"

end Flag

abbrev Flags := List Flag

/-- Why arguments were refused. -/
inductive FlagError where
  | unknownOption (arg : String)
  | missingValue (arg : String)
  deriving DecidableEq, Repr

def FlagError.message : FlagError → String
  | .unknownOption arg => "unknown option " ++ arg
  | .missingValue arg => "Flag " ++ arg ++ " requires a value"

namespace Flags

def initial : Flags := [
  { name := "help", short := "-h", long := "--help", description := "Print this help message" },
  { name := "version", short := "-v", long := "--version",
    description := "Show version information" },
  { name := "config", short := "-c", long := "--config", takesValue := true,
    description := "Read settings from this file instead of ~/.krshrc" },
  { name := "quiet", short := "-q", long := "--quiet", description := "Suppress diagnostics" },
  { name := "debug", short := "-d", long := "--debug", description := "Enable debug output" },
  { name := "no-editor", short := "-n", long := "--no-editor",
    description := "Read plain lines even on a terminal" }]

def spelledBy? (flags : Flags) (arg : String) : Option Flag := flags.find? (·.isSpelled arg)

/-- The table with a value given to the flag that an argument spells. -/
def give (flags : Flags) (arg value : String) : Flags :=
  match flags with
  | [] => []
  | flag :: rest =>
    if flag.isSpelled arg then { flag with value := some value } :: rest
    else flag :: Flags.give rest arg value

/-- Reads arguments from left to right. What was set before an error stays set. -/
def parse (flags : Flags) : List String → Flags × Except FlagError Unit
  | [] => (flags, .ok ())
  | arg :: rest =>
    match flags.spelledBy? arg with
    | none => (flags, .error (.unknownOption arg))
    | some flag =>
      if flag.takesValue then
        match rest with
        | [] => (flags, .error (.missingValue arg))
        | value :: rest => parse (flags.give arg value) rest
      else parse (flags.give arg "true") rest

def value? (flags : Flags) (name : String) : Option String :=
  (flags.find? (·.name == name)).bind Flag.value

def isSet (flags : Flags) (name : String) : Bool := (flags.value? name).isSome

def threshold (flags : Flags) : Log.Threshold :=
  .ofFlags (flags.isSet "quiet") (flags.isSet "debug")

/-- Puts a flag in front of the first whose long spelling is not before its own. -/
def insertByLong (flag : Flag) : Flags → Flags
  | [] => [flag]
  | other :: rest =>
    if flag.long ≤ other.long then flag :: other :: rest
    else other :: insertByLong flag rest

/-- The flags in the order of their long spellings. -/
def sorted (flags : Flags) : Flags := flags.foldr insertByLong []

def helpText (flags : Flags) : String :=
  "Usage: " ++ shellName ++ " [OPTIONS]\n\nOptions:\n" ++
    String.join (flags.sorted.map Flag.helpLine)

end Flags

end LineShell
