import LineShell.Machine.Interpreter.Evaluation

/-!
# Scripts as programs

The program for scripts takes its options and then a script: a text, the name of a file, or its
input. The other arguments are the arguments of the script.
-/

namespace LineShell.Machine.Interpreter

/-- The turns and calls that may be inside one another while a script runs. -/
def evaluationBudget : Nat := 100000

/-- What the program calls itself before it has looked at its arguments. -/
def ownName : Octets := Octets.ofString Tool.sh.name

/-- The search path of scripts that get none. -/
def initialPath : Octets := "/usr/local/sbin:/usr/local/bin:/usr/sbin:/usr/bin:/sbin:/bin"

/-- The variables that are set at the start if nothing else sets them. -/
def initialVariables : List (Octets × Octets) := [
  ("PATH", initialPath), ("PS1", "$ "), ("PS2", "> "), ("PS4", "+ ")]

/-- The variables at the start. What separates fields never comes from outside. -/
def startVariables (job : Job) : List (Octets × Variable) :=
  let parent := job.parents.headD (job.pid - 1)
  let own : List (Octets × Octets) := [
    ("IFS", [' ', '\t', '\n']), ("OPTIND", ['1']), ("PPID", decimal parent)]
  let given := job.environment.filter fun (name, _) => isName name
  let exported (name : Octets) : Bool := (given.lookup name).isSome
  let set_ := own.map fun (name, value) =>
    (name, ({ value := some value, exported := exported name } : Variable))
  let taken := (given.filter fun (name, _) => (own.lookup name).isNone).map fun (name, value) =>
    (name, ({ value := some value, exported := true } : Variable))
  let others := (initialVariables.filter fun (name, _) => !exported name).map fun (name, value) =>
    (name, ({ value := some value } : Variable))
  set_ ++ taken ++ others

def startState (job : Job) : State :=
  { job, mainPid := job.pid, name := ownName, arguments := [], bindings := startVariables job
    functions := [], options := [], status := 0, kept := none, line := 0, nextLine := 0
    speaker := none, substituted := 0, named := [], traps := [], beside := [], lastBeside := none
    documents := #[], aliases := [], tracked := [], loops := 0, scopes := [], functionDepth := 0
    optionPlace := 0 }

def scriptText (path : Path) : Run Octets := do
  let s ← get
  match s.job.files.openForReading s.job.dir path with
  | .ok id => return s.job.files.content id
  | .error e => fail ("cannot open " ++ path ++ ": " ++ fileFault "No such file" e)

/-- Runs the script that arguments say. -/
def runArguments (launch : Launcher) (args : List Octets) : Run Unit := do
  nameDirectory
  modify fun s => { s with name := s.job.name }
  let reading ← setOptions .start args
  let s ← get
  let readsInput := s.options.contains 's' || (reading.rest.isEmpty && !reading.isText)
  let fromInput (arguments : List Octets) : Run Unit := do
    modify ({ · with arguments })
    let _ ← commands launch evaluationBudget {} .input { rest := [] }
  if reading.isText then
    match reading.rest with
    | [] => fail "-c requires an argument"
    | text :: rest =>
      modify fun s => { s with name := rest.headD s.name, arguments := rest.tail, line := 1 }
      let _ ← commands launch evaluationBudget { isLast := !readsInput } .text { rest := text }
      if readsInput then fromInput rest.tail
  else if readsInput then fromInput reading.rest
  else
    match reading.rest with
    | [] => return ()
    | path :: rest =>
      let text ← scriptText path
      modify ({ · with name := path, arguments := rest })
      let _ ← commands launch evaluationBudget {} .file { rest := text }

def run (launch : Launcher) (job : Job) (args : List Octets) : Ended :=
  let whole : Run WaitStatus := do
    let result ← observed (runArguments launch args)
    finish launch evaluationBudget result
  match (whole.run).run (startState job) with
  | (.ok status, s) => ⟨s.job.world, status⟩
  | (.error _, s) => ⟨s.job.world, .exited 2⟩

end LineShell.Machine.Interpreter
