import LineShell.Machine.Image
import LineShell.Machine.Tools

/-!
# Starting programs

A file that can be started takes over a job and runs to its end. What is started may start files in
its turn, so many inside one another.
-/

namespace LineShell.Machine

def Image.run (image : Image) (launch : Launcher) (job : Job) (argv : List Octets) : Ended :=
  let job := { job with name := image.calledAs.getD (argv.headD []), writeFault := none }
  Tools.run launch image.tool job (image.operands ++ argv.tail)

/-- The most bytes of one argument, its end mark included. -/
def longestArgument : Nat := 131072

def areTooLong (argv : List Octets) : Bool := argv.any fun text => longestArgument ≤ text.length

/-- The programs that may be running one inside the other. -/
def mostNested : Nat := 64

/-- Starts files that may start files in their turn, down to a number of levels. -/
def start : (depth : Nat) → Launcher
  | 0, _, _, _ => .error .tryAgain
  | depth + 1, job, path, argv =>
    if areTooLong argv then .error .argumentsTooLong
    else (job.imageAt path).map fun image => image.run (start depth) job argv

/-- Starts a program by its name and runs it to its end. The first argument is its name. -/
def execute (job : Job) (argv : List Octets) : Except IoError Ended :=
  match argv with
  | [] => .error .noSuchFile
  | name :: _ =>
    if areTooLong argv then .error .argumentsTooLong
    else (findImage job name).map fun image => image.run (start mostNested) job argv

end LineShell.Machine
