import LineShell.Machine.Job
import LineShell.Machine.Numeral
import LineShell.Machine.Script.Reader

/-!
# The state of a script

A script that runs has a job, variables, functions, options and a place; it can be interrupted by an
error, by its end, and by what leaves loops and functions.
-/

namespace LineShell.Machine.Interpreter

open Machine.Script (Command Word)

/-- A variable. One without a value is unset, but may be marked. -/
structure Variable where
  value : Option Octets
  exported : Bool := false
  readOnly : Bool := false

/-- What ends a command before its time. -/
inductive Interrupt where
  | leave (code : Nat)
  /-- The process is no longer the script's: a signal or another program took it. -/
  | gone (status : WaitStatus)
  /-- Something went wrong that no later command can mend. -/
  | error
  | leaveLoops (count : Nat) (goesOn : Bool)
  | leaveFunction (status : Nat)

/-- A command run beside the script. -/
structure Companion where
  pid : Nat
  status : WaitStatus
  /-- How many commands pass their output on to one another. -/
  parts : Nat := 1
  /-- It has not come to its end: it waits for time to pass. -/
  sleeps : Bool := false
  isReaped : Bool := false
  /-- The script has waited for it, and may forget it. -/
  isHeard : Bool := false

/-- What is restored at the end of a function. -/
structure Scope where
  bindings : List (Octets × Option Variable) := []
  options : Option (List Char) := none

structure State where
  job : Job
  mainPid : Nat
  name : Octets
  arguments : List Octets
  bindings : List (Octets × Variable)
  functions : List (Octets × Command)
  options : List Char
  status : Nat
  /-- The status that the script has if a command called by a signal or by its end ends it. -/
  kept : Option Nat
  line : Nat
  nextLine : Nat
  speaker : Option Octets
  substituted : Nat
  /-- The directory as it was named; empty if it could not be told. -/
  named : Path
  /-- The commands that signals call, by number; 0 is the end of the script. -/
  traps : List (Nat × Octets)
  beside : List (Option Companion)
  lastBeside : Option Nat
  documents : Array Word
  aliases : List (Octets × Octets)
  /-- Where commands were found that were searched for. -/
  tracked : List (Octets × Path)
  loops : Nat
  /-- What is restored at the end of each function, the innermost first. -/
  scopes : List Scope
  functionDepth : Nat
  /-- How far options have been read out of one argument. -/
  optionPlace : Nat

abbrev Run := ExceptT Interrupt (StateM State)

/-- The place of a name in a table of so many rows: names of one row stay in their order. -/
def row (rows : Nat) (name : Octets) : Nat :=
  name.foldl (fun sum c => sum + c.toNat) ((name.head?.map fun c => c.toNat * 16).getD 0) % rows

/-- Named things in the order of a table of so many rows. -/
def tabled {α : Type} (rows : Nat) (entries : List (Octets × α)) : List (Octets × α) :=
  entries.mergeSort fun x y => row rows x.1 ≤ row rows y.1

/-- Acts on the job of the script. -/
def act {α : Type} (a : Act α) : Run α := do
  let s ← get
  let (result, job) := a.run s.job
  set { s with job }
  return result

def say (text : Octets) : Run Unit := act (Machine.say text)

def complain (text : Octets) : Run Unit := do
  let s ← get
  let speaker : Octets :=
    match s.speaker with
    | some name => name ++ ": "
    | none => []
  act (warn (line (s.name ++ ": " ++ decimal s.line ++ ": " ++ speaker ++ text)))

def conclude (status : Nat) : Run Unit := modify ({ · with status })

def fail {α : Type} (text : Octets) : Run α := do
  complain text
  conclude 2
  throw .error

def observed {α : Type} (action : Run α) : Run (Except Interrupt α) :=
  tryCatch (do return .ok (← action)) fun interrupt => return .error interrupt

/-- Does something after an action, whatever interrupts it. -/
def ensuring {α : Type} (action : Run α) (after : Run Unit) : Run α := do
  let result ← tryCatch action fun interrupt => do
    after
    throw interrupt
  after
  return result

def badNumber {α : Type} (text : Octets) : Run α := fail ("Illegal number: " ++ text)

def natural (text : Octets) : Run Nat := do
  match integer? 10 text with
  | some n => if n < 0 || 2147483647 < n then badNumber text else return n.toNat
  | none => badNumber text

def hasOption (letter : Char) : Run Bool := do return (← get).options.contains letter

namespace State

def variableOf? (s : State) (name : Octets) : Option Variable := s.bindings.lookup name

def text? (s : State) (name : Octets) : Option Octets := (s.variableOf? name).bind (·.value)

/-- The state with a variable replaced, or taken away. -/
def withVariable (s : State) (name : Octets) (v : Option Variable) : State :=
  { s with bindings := match v with
    | some v =>
      if (s.bindings.lookup name).isSome then
        s.bindings.map fun (other, old) => (other, if other = name then v else old)
      else s.bindings ++ [(name, v)]
    | none => s.bindings.filter (·.1 != name) }

def separators (s : State) : Octets := (s.text? "IFS").getD [' ', '\t', '\n']

def exported (s : State) : List (Octets × Octets) :=
  (tabled 39 s.bindings).filterMap fun (name, v) =>
    if v.exported then v.value.map fun value => (name, value) else none

def searchPath (s : State) : Octets := (s.text? "PATH").getD []

/-- The job of the script with its exported variables, as a program takes it over. -/
def exportingJob (s : State) : Job :=
  { s.job with
    environment := s.exported
    ignored := s.job.ignored ++ (s.traps.filter (·.2.isEmpty)).map (·.1)
    writeFault := none }

/-- Whether a signal or the end of the script calls a command. -/
def hasTraps (s : State) : Bool := s.traps.any fun (_, action) => !action.isEmpty

end State

/-- Sets a variable, which may not be marked read-only, and may have it exported. -/
def assignMarked (name value : Octets) (exports : Bool) : Run Unit := do
  let s ← get
  let before := (s.variableOf? name).getD { value := none }
  if before.readOnly then fail (name ++ ": is read only")
  else
    let exported := before.exported || exports || s.options.contains 'a'
    let s := if name = "OPTIND" then { s with optionPlace := 0 } else s
    let s := if name = "PATH" && before.value != some value then { s with tracked := [] } else s
    set (s.withVariable name (some { before with value := some value, exported }))

def assign (name value : Octets) : Run Unit := assignMarked name value false

def unassign (name : Octets) : Run Unit := do
  let s ← get
  match s.variableOf? name with
  | some { readOnly := true, .. } => fail (name ++ ": is read only")
  | _ => set (s.withVariable name none)

def requireName (name : Octets) : Run Unit := do
  unless isName name do fail (name ++ ": bad variable name")

/-- Keeps a variable, to be restored at the end of the scope. -/
def keepLocal (name : Octets) : Run Unit :=
  modify fun s =>
    match s.scopes with
    | scope :: rest =>
      if scope.bindings.any (·.1 = name) then s
      else
        let bindings := (name, s.variableOf? name) :: scope.bindings
        { s with scopes := { scope with bindings } :: rest }
    | [] => s

/-- Keeps the options, to be restored at the end of the scope. -/
def keepOptions : Run Unit :=
  modify fun s =>
    match s.scopes with
    | scope :: rest =>
      { s with scopes := { scope with options := some (scope.options.getD s.options) } :: rest }
    | [] => s

def openScope : Run Unit := modify fun s => { s with scopes := {} :: s.scopes }

/-- Closes the innermost scope and restores what it keeps. -/
def closeScope : Run Unit :=
  modify fun s =>
    match s.scopes with
    | [] => s
    | scope :: rest =>
      scope.bindings.foldl (fun s (name, v) => s.withVariable name v)
        { s with scopes := rest, options := scope.options.getD s.options }

/-- The code that a status counts as, and what is said of a signal. -/
def statusCode (status : WaitStatus) : Nat × Octets :=
  match status.exitCode?, status.signal? with
  | some code, _ => (code, [])
  | none, some signal =>
    (128 + signal, if signal = 2 ∨ signal = 13 then []
      else line (Octets.ofString (WaitStatus.signalText signal)))
  | none, none => (1, [])

/-- Takes over the world that a child left. -/
def adopt (world : World) : Run Unit := modify fun s => { s with job := { s.job with world } }

/-- Puts a command in the first place that is free or may be forgotten. -/
def placed (companion : Option Companion) : List (Option Companion) → List (Option Companion)
  | [] => [companion]
  | none :: rest => companion :: rest
  | some other :: rest =>
    if other.isHeard then companion :: rest else some other :: placed companion rest

def makeRoom : Run Unit := modify fun s => { s with beside := placed none s.beside }

/-- Changes what is known of the commands run beside the script. -/
def changeCompanions (change : Companion → Companion) : Run Unit :=
  modify fun s => { s with beside := s.beside.map (·.map change) }

def childSignal : Nat := 17

/-- Takes over what a finished child left, and says what signal ended it. Commands beside the script
that have come to their end are noticed with it. -/
def settle (ended : Ended) : Run Nat := do
  adopt ended.world
  let (code, remark) := statusCode ended.status
  act (warn remark)
  let s ← get
  if (s.traps.lookup childSignal).any (!·.isEmpty) then
    let signals := s.job.world.signals ++ [(s.job.pid, childSignal)]
    set { s with job := { s.job with world := { s.job.world with signals } } }
  changeCompanions fun c => { c with isReaped := c.isReaped || !c.sleeps }
  return code

def namedSignals : List (Nat × String × String) := WaitStatus.signals.filter (·.1 != 16)

/-- The number of a signal's name, without the first letters that all names share. -/
def signalNumber? (least : Nat) (text : Octets) : Option Nat :=
  match number? text with
  | some n => if n < 65 then some n else none
  | none =>
    let upper := String.ofList (text.map Char.toUpper)
    if upper = "EXIT" && least = 0 then some 0
    else
      match namedSignals.find? fun (_, symbol, _) => symbol = "SIG" ++ upper with
      | some (n, _) => some n
      | none =>
        if upper = "RTMIN" then some 34
        else if upper = "RTMAX" then some 64
        else none

def signalName (n : Nat) : Octets :=
  if n = 0 then "EXIT"
  else
    match namedSignals.lookup n with
    | some (symbol, _) => (Octets.ofString symbol).drop 3
    | none =>
      if n = 34 then "RTMIN"
      else if n = 64 then "RTMAX"
      else if 34 < n && n < 50 then "RTMIN+" ++ decimal (n - 34)
      else if 50 ≤ n && n < 64 then "RTMAX-" ++ decimal (64 - n)
      else decimal n

/-- The signals that end no program by themselves. -/
def harmlessSignals : List Nat := [0, 17, 18, 19, 20, 21, 22, 23, 28]

/-- What is wrong with a file, in the words of a script. -/
def fileFault (missing : String) (e : IoError) : Octets :=
  if e = .noSuchFile ∨ e = .notADirectory then missing else Octets.ofString e.text

end LineShell.Machine.Interpreter
