import LineShell.Machine.Job

/-!
# Search paths

A name with a slash is a path; any other is tried in the directories of a search path, in their
order. Some faults let the search go on, and a file that may not be executed is remembered.
-/

namespace LineShell.Machine

/-- The path of a name in a searched directory; an empty one is the working directory. -/
def candidatePath (directory name : Path) : Path :=
  if directory.isEmpty then name else directory ++ '/' :: name

def candidatesOn (search name : Octets) : List Path :=
  (search.splitOn ':').map fun directory => candidatePath directory name

/-- The faults that let a search go on. -/
def isSkippable (e : IoError) : Bool :=
  [IoError.permissionDenied, .noSuchFile, .notADirectory, .os 116, .os 19, .os 110].contains e

def firstAmong {α : Type} (attempt : Path → Except IoError α) (denied : Bool) (last : IoError) :
    List Path → Except IoError α
  | [] => .error (if denied then .permissionDenied else last)
  | path :: rest =>
    match attempt path with
    | .ok found => .ok found
    | .error e =>
      if isSkippable e then firstAmong attempt (denied || e = .permissionDenied) e rest
      else .error e

def Job.searchPath (job : Job) : Octets := (job.value? "PATH").getD "/bin:/usr/bin"

def Job.attemptAt {α : Type} (job : Job) (attempt : Path → Except IoError α) (name : Octets) :
    Except IoError α :=
  if name.isEmpty then .error .noSuchFile
  else if name.contains '/' then attempt name
  else firstAmong attempt false .noSuchFile (candidatesOn job.searchPath name)

/-- The interpreter of files that name none. -/
def plainInterpreter : Path := "/bin/sh"

/-- Starts a file; one that is no program is a script. -/
def startFile (launch : Launcher) (job : Job) (path : Path) (argv : List Octets) :
    Except IoError Ended :=
  match launch job path argv with
  | .error .notExecutable =>
    launch job plainInterpreter (plainInterpreter :: path :: argv.tail)
  | result => result

end LineShell.Machine
