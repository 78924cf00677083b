import LineShell.Machine.Interpreter.Options

/-!
# Signals

A signal that a script gets ends it, calls a command, or does nothing. A script may send signals to
itself and to the processes that wait for it.
-/

namespace LineShell.Machine.Interpreter

inductive Effect where
  | ends
  | calls
  | nothing
  deriving DecidableEq, Repr

namespace State

def effect (s : State) (signal : Nat) : Effect :=
  if signal = 9 then .ends
  else if s.job.ignored.contains signal then .nothing
  else
    match s.traps.lookup signal with
    | some action => if action.isEmpty then .nothing else .calls
    | none => if harmlessSignals.contains signal then .nothing else .ends

/-- The signals sent to the script's process, the first one first. -/
def pending (s : State) : List Nat :=
  s.job.world.signals.filterMap fun (pid, signal) => if pid = s.job.pid then some signal else none

/-- The state with other signals on their way to the script's process. -/
def withPending (s : State) (signals : List Nat) : State :=
  let others := s.job.world.signals.filter (·.1 != s.job.pid)
  { s with job := { s.job with world := { s.job.world with
      signals := others ++ signals.map fun signal => (s.job.pid, signal) } } }

end State

/-- Acts on the signals that have come. Those that call a command are kept until the command may
run. -/
def heedSignals : Run Unit := do
  let s ← get
  let signals := s.pending
  unless signals.isEmpty do
    let calling := signals.filter fun signal => s.effect signal = .calls
    set (s.withPending (calling.mergeSort (· ≤ ·)).eraseDups)
    match signals.find? fun signal => s.effect signal = .ends with
    | some signal => throw (.gone (.killed signal))
    | none => return ()

/-- Sends a signal to a process, which has to be the script, wait for it or run beside it. Says
whether there is such a process. -/
def send (pid signal : Nat) : Run Bool := do
  let s ← get
  let companion := s.beside.findSome? (·.filter fun c => c.pid = pid && !c.isReaped)
  if pid = s.job.pid || s.job.parents.contains pid then
    set { s with job := { s.job with world := { s.job.world with
      signals := s.job.world.signals ++ (if signal = 0 then [] else [(pid, signal)]) } } }
    heedSignals
    return true
  else
    if companion.any (·.sleeps) && signal != 2 && signal != 3 &&
        !harmlessSignals.contains signal then
      changeCompanions fun c =>
        if c.pid = pid then { c with status := .killed signal, sleeps := false } else c
    return companion.isSome

def killUsage : Octets :=
  "Usage: kill [-s sigspec | -signum | -sigspec] [pid | job]... or\nkill -l [exitstatus]"

/-- Lists the names of signals, or of the one that an exit status tells of. -/
def listSignals : List Octets → Run Nat
  | [] => do
    say (line ['0'])
    for n in (List.range 64).map (· + 1) do say (line (signalName n))
    return 0
  | text :: _ => do
    let n ← natural text
    let n := if 128 < n then n - 128 else n
    if 0 < n && n < 65 then
      say (line (signalName n))
      return 0
    else fail ("invalid signal number or exit status: " ++ text)

/-- What the options before the processes ask for: a signal, or the list. -/
def killOptions (args : List Octets) : Run (Option Nat × Bool × List Octets) := do
  match args with
  | ('-' :: name) :: rest =>
    match signalNumber? 1 name with
    | some signal => return (some signal, false, rest)
    | none =>
      let (options, rest) ← optionsOf "ls:" args
      let signal ← (options.reverse.find? (·.1 = 's')).mapM fun (_, name) =>
        match signalNumber? 1 name with
        | some signal => (return signal : Run Nat)
        | none => fail ("invalid signal number or name: " ++ name)
      return (signal, options.any (·.1 = 'l'), rest)
  | _ => return (none, false, args)

def kill (args : List Octets) : Run Nat := do
  if args.isEmpty then fail killUsage
  else
    let (signal, lists, targets) ← killOptions args
    if lists then
      if signal.isSome then fail killUsage else listSignals targets
    else if targets.isEmpty then fail killUsage
    else
      let mut status := 0
      for target in targets do
        let isGroup : Bool := target.head? = some '-'
        if target.head? = some '%' then fail ("No such job: " ++ target)
        let pid ← natural (if isGroup then target.drop 1 else target)
        -- No process leads a group of its own.
        let isThere ← if isGroup then pure false else send pid (signal.getD 15)
        unless isThere do
          complain (line "No such process")
          status := 1
      return status

/-- A text between single quotes, with single quotes of its own between double quotes. -/
def requoted (text : Octets) : Octets :=
  let rec go : (fuel : Nat) → Octets → Octets
    | 0, _ => []
    | fuel + 1, text =>
      let bare := text.takeWhile (· != '\'')
      let rest := text.drop bare.length
      let quotes := rest.takeWhile (· = '\'')
      let after := rest.drop quotes.length
      ['\''] ++ bare ++ ['\''] ++
        (if quotes.isEmpty then [] else ['"'] ++ quotes ++ ['"']) ++
        (if after.isEmpty then [] else go fuel after)
  go (text.length + 1) text

/-- Sets the command that a signal calls, or takes it back. -/
def setTrap (signal : Nat) (action : Option Octets) : Run Unit :=
  modify fun s =>
    let others := s.traps.filter (·.1 != signal)
    { s with traps := match action with
      | some action => others ++ [(signal, action)]
      | none => others }

/-- Sets the command of each named signal. -/
def setTraps (action : Option Octets) : List Octets → Run Nat
  | [] => return 0
  | name :: rest => do
    match signalNumber? 0 name with
    | none =>
      act (warn (line ("trap: " ++ name ++ ": bad trap")))
      return 1
    | some signal =>
      setTrap signal action
      setTraps action rest

/-- Says what signals call, or has them call something else. -/
def trap (args : List Octets) : Run Nat := do
  let (_, operands) ← optionsOf "" args
  match operands with
  | [] =>
    let traps := (← get).traps.mergeSort fun x y => x.1 ≤ y.1
    for (signal, action) in traps do
      say (line ("trap -- " ++ requoted action ++ [' '] ++ signalName signal))
    return 0
  | [name] => setTraps none [name]
  | first :: rest =>
    if (number? first).isSome then setTraps none operands
    else setTraps (if first = ['-'] then none else some first) rest

end LineShell.Machine.Interpreter
