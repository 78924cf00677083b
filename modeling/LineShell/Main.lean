import LineShell.Program

/-!
# The command line

The outer layer of the program: arguments, variables and standard input come from the system, the
settings file is copied to a machine in memory, and what the program wrote there is written out.
-/

namespace LineShell.CommandLine

/-- The variables that the program looks at. -/
def consulted : List String :=
  ["HOME", "PATH", "TERM", "NO_COLOR", "CLICOLOR", "CLICOLOR_FORCE", "COLORTERM", "TERM_PROGRAM"]

def environment : IO Environment := do
  let mut found : Environment := []
  for name in consulted do
    if let some text ← IO.getEnv name then found := found.set name text
  return found

def failureWith (code : UInt32) : ReadFailure :=
  if final : (IoError.os code.toNat).group ≠ "Interrupted" then ⟨.os code.toNat, final⟩
  else .inputOutput

def failureOf : IO.Error → ReadFailure
  | .inappropriateType _ code _ | .invalidArgument _ code _ | .permissionDenied _ code _
  | .hardwareFault code _ | .otherError code _ => failureWith code
  | _ => .inputOutput

/-- Reads a stream to its end, or as far as it can be read. -/
partial def readAll (stream : IO.FS.Stream) (sofar : ByteArray) :
    IO (ByteArray × Option ReadFailure) := do
  let attempt ← try Except.ok <$> stream.read 65536 catch e => pure (.error (failureOf e))
  match attempt with
  | .error failure => return (sofar, some failure)
  | .ok block => if block.isEmpty then return (sofar, none) else readAll stream (sofar ++ block)

def readFile? (path : String) : IO (Option ByteArray) := do
  try return some (← IO.FS.readBinFile path) catch _ => return none

/-- The machine with the settings file that the arguments ask for. -/
def prepare (args : List String) (m : Machine) : IO Machine := do
  let some path := Program.settingsPath? args m | return m
  let some content ← readFile? path | return m
  return m.withFile Machine.FileTree.root path content.toList

def deliver (written : List (Stream × List UInt8)) : IO Unit := do
  let output ← IO.getStdout
  let error ← IO.getStderr
  for (stream, bytes) in written do
    let target := match stream with
      | .output => output
      | .error => error
    target.write ⟨bytes.toArray⟩
    target.flush

end LineShell.CommandLine

open LineShell in
/-- Runs the program on a machine in memory. -/
def main (args : List String) : IO UInt32 := do
  let environment ← CommandLine.environment
  let (input, failure) ← CommandLine.readAll (← IO.getStdin) ByteArray.empty
  let m ← CommandLine.prepare args { Machine.ofEnvironment environment with input := input.toList }
  let conclusion := Program.run args m Machine.FileTree.root failure
  CommandLine.deliver (conclusion.written (Program.showLevel m))
  return UInt32.ofNat conclusion.status
