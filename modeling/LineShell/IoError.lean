import LineShell.Errno
import LineShell.Text.Quoted

/-!
# Failures of input and output

A failure is a number of the operating system, or one of three faults that are found before the
system is asked. Each has a message for the operator and a diagnosis that names its parts.
-/

namespace LineShell

/-- Why an operation failed: a number of the system, bytes that had to be text, or a NUL in a path or
in an argument. -/
inductive IoError where
  | os (code : Int)
  | invalidUtf8
  | nulInPath
  | nulInArgument
  deriving DecidableEq, Repr

namespace IoError

/-- No child could be created for now. -/
abbrev tryAgain : IoError := .os 11
abbrev outOfMemory : IoError := .os 12
abbrev noSuchFile : IoError := .os 2
abbrev inputOutput : IoError := .os 5
abbrev argumentsTooLong : IoError := .os 7
abbrev notExecutable : IoError := .os 8
abbrev badDescriptor : IoError := .os 9
abbrev permissionDenied : IoError := .os 13
abbrev busy : IoError := .os 16
abbrev fileExists : IoError := .os 17
abbrev notADirectory : IoError := .os 20
abbrev isADirectory : IoError := .os 21
abbrev invalidArgument : IoError := .os 22
abbrev noSpace : IoError := .os 28
abbrev nameTooLong : IoError := .os 36
abbrev notEmpty : IoError := .os 39
abbrev tooManyLinks : IoError := .os 40

def text : IoError → String
  | .os code => Errno.text code
  | .invalidUtf8 => "stream did not contain valid UTF-8"
  | .nulInPath => "file name contained an unexpected NUL byte"
  | .nulInArgument => "nul byte found in provided data"

/-- What the operator reads: a number of the system is added to its text. -/
def message : IoError → String
  | .os code => Errno.text code ++ " (os error " ++ toString code ++ ")"
  | fault => fault.text

/-- The name of the group that a failure belongs to. -/
def group : IoError → String
  | .os code => Errno.group code
  | .invalidUtf8 => "InvalidData"
  | .nulInPath | .nulInArgument => "InvalidInput"

def diagnosis (e : IoError) : String :=
  let parts := "kind: " ++ e.group ++ ", message: " ++ Text.quoted e.text ++ " \x7d"
  match e with
  | .os code => "Os \x7b code: " ++ toString code ++ ", " ++ parts
  | _ => "Error \x7b " ++ parts

end IoError

end LineShell
