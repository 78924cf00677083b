import LineShell.Machine.Interpreter.Redirections

/-!
# Programs from scripts

A command that is no part of the script is a program, which the search path finds. A file that is no
program by itself is run as a script.
-/

namespace LineShell.Machine.Interpreter

structure Manner where
  /-- Something looks at its status, so that a failure is no reason to end the script. -/
  isTested : Bool := false
  isLast : Bool := false

def startFirst (launch : Launcher) (job : Job) (argv : List Octets) (cause : IoError) :
    List Path → Except IoError Ended
  | [] => .error cause
  | path :: rest =>
    match startFile launch job path argv with
    | .ok ended => .ok ended
    | .error e =>
      startFirst launch job argv (if e = .noSuchFile || e = .notADirectory then cause else e) rest

def startStatus (e : IoError) : Nat :=
  if [IoError.noSuchFile, .notADirectory, .tooManyLinks, .nameTooLong].contains e then 127 else 126

def complainOfStart (name : Octets) (e : IoError) : Run Unit :=
  complain (name ++ ": " ++ fileFault "not found" e)

/-- Runs a program. The process becomes the program if it has nothing to do after it. -/
def runProgram (launch : Launcher) (manner : Manner) (search : Option Octets) (name : Octets)
    (argv : List Octets) : Run Unit := do
  let found : Except IoError (List Path) ←
    if name.contains '/' then pure (.ok [name])
    else
      match search with
      | none => searched name
      | some search => pure (programPaths (← get) search name)
  let s ← get
  match found with
  | .error e =>
    complainOfStart name e
    conclude 127
  | .ok paths =>
    let isTakenOver := manner.isLast && !s.hasTraps
    unless isTakenOver do makeRoom
    let s ← get
    let job := if isTakenOver then s.exportingJob else s.exportingJob.child
    match startFirst launch job argv .noSuchFile paths with
    | .ok ended =>
      if isTakenOver then
        adopt ended.world
        throw (.gone ended.status)
      else
        conclude (← settle ended)
        heedSignals
    | .error e =>
      complainOfStart name e
      if isTakenOver then throw (.leave (startStatus e)) else conclude (startStatus e)

def becomeProgram (launch : Launcher) (argv : List Octets) : Run Nat := do
  match argv with
  | [] => return 0
  | name :: _ =>
    let s ← get
    let paths := if name.contains '/' then [name] else candidatesOn s.searchPath name
    match startFirst launch s.exportingJob argv .noSuchFile paths with
    | .ok ended =>
      adopt ended.world
      throw (.gone ended.status)
    | .error e =>
      complainOfStart name e
      throw (.leave (startStatus e))

def includedFile (name : Octets) : Run Path := do
  if name.contains '/' then return name
  else
    let s ← get
    match (candidatesOn s.searchPath name).find? (isFileAt s) with
    | some path => return path
    | none => fail (name ++ ": not found")

def includedText (path : Path) : Run Octets := do
  let s ← get
  match s.job.files.openForReading s.job.dir path with
  | .ok id => return s.job.files.content id
  | .error e => fail ("cannot open " ++ path ++ ": " ++ fileFault "No such file" e)

end LineShell.Machine.Interpreter
