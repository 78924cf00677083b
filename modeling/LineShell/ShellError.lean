import LineShell.Settings.File

/-!
# Errors of the shell

Each part of the shell fails in its own ways: reading a line, running a builtin, running a program,
loading settings, reading flags. A shell error is one of these, with a message for the operator and a
diagnosis that names its parts.
-/

namespace LineShell

inductive EditorError where
  | endOfInput
  | interrupted
  | io (cause : IoError)
  deriving DecidableEq, Repr

namespace EditorError

def message : EditorError → String
  | .endOfInput => "EOF"
  | .interrupted => "Interrupted"
  | .io cause => cause.message

def diagnosis : EditorError → String
  | .endOfInput => "Eof"
  | .interrupted => "Interrupted"
  | .io cause => "Io(" ++ cause.diagnosis ++ ")"

end EditorError

/-- Why a builtin did not do its work. -/
inductive CommandError where
  | missingArgument (command : String)
  | changeDirectory (path : String) (cause : IoError)
  deriving DecidableEq, Repr

namespace CommandError

def message : CommandError → String
  | .missingArgument command => command ++ ": missing argument"
  | .changeDirectory path cause => "cd: " ++ path ++ ": " ++ cause.message

def diagnosis : CommandError → String
  | .missingArgument command => "MissingArgument(" ++ Text.quoted command ++ ")"
  | .changeDirectory path cause =>
    "ChangeDirectory \x7b path: " ++ Text.quoted path ++ ", source: " ++ cause.diagnosis ++ " \x7d"

end CommandError

/-- Why a program did not run to its end: no child could be created, the child could not become the
program, or there was no waiting for it. -/
inductive ProcessError where
  | spawn (cause : IoError)
  | exec (program : String) (cause : IoError)
  | wait (cause : IoError)
  deriving DecidableEq, Repr

namespace ProcessError

/-- Sorts a failed launch: want of processes or memory is the fault of no program. -/
def ofLaunch (program : String) (cause : IoError) : ProcessError :=
  if cause = .tryAgain ∨ cause = .outOfMemory then .spawn cause else .exec program cause

def message : ProcessError → String
  | .spawn cause => "fork failed: " ++ cause.message
  | .exec program cause => "exec: " ++ program ++ ": " ++ cause.message
  | .wait cause => "wait failed: " ++ cause.message

def diagnosis : ProcessError → String
  | .spawn cause => "Spawn(" ++ cause.diagnosis ++ ")"
  | .exec program cause =>
    "Exec \x7b program: " ++ Text.quoted program ++ ", source: " ++ cause.diagnosis ++ " \x7d"
  | .wait cause => "Wait(" ++ cause.diagnosis ++ ")"

end ProcessError

/-- Whatever may go wrong in the shell. `tokenize` is want of room for the words of a line, `logger`
a log that was set up twice. -/
inductive ShellError where
  | readline (error : EditorError)
  | io (cause : IoError)
  | tokenize
  | command (error : CommandError)
  | process (error : ProcessError)
  | config (error : ConfigError)
  | flag (message : String)
  | logger
  deriving DecidableEq, Repr

namespace ShellError

def message : ShellError → String
  | .readline error => "Readline error: " ++ error.message
  | .io cause => "IO error: " ++ cause.message
  | .tokenize =>
    "allocation failure: memory allocation failed because the computed capacity exceeded the " ++
      "collection's maximum"
  | .command error => error.message
  | .process error => error.message
  | .config error => "Config error: " ++ error.message
  | .flag message => "Flag error: " ++ message
  | .logger =>
    "Logger error: attempted to set a logger after the logging system was already initialized"

def diagnosis : ShellError → String
  | .readline error => "Readline(" ++ error.diagnosis ++ ")"
  | .io cause => "Io(" ++ cause.diagnosis ++ ")"
  | .tokenize => "Tokenize(Allocation(TryReserveError \x7b kind: CapacityOverflow \x7d))"
  | .command error => "CommandError(" ++ error.diagnosis ++ ")"
  | .process error => "ProcessError(" ++ error.diagnosis ++ ")"
  | .config error => "ConfigError(" ++ error.diagnosis ++ ")"
  | .flag message => "FlagError(" ++ Text.quoted message ++ ")"
  | .logger => "Logger(SetLoggerError(()))"

/-- The line that reports an error to the operator of a session. -/
def report (e : ShellError) : String := shellName ++ ": " ++ e.message ++ "\n"

end ShellError

end LineShell
