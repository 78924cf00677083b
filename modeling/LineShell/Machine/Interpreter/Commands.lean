import LineShell.Machine.Interpreter.Condition
import LineShell.Machine.Interpreter.Directory
import LineShell.Machine.Interpreter.Reading
import LineShell.Machine.Interpreter.Variables
import LineShell.Machine.PathSearch
import LineShell.Machine.Template

/-!
# The commands of scripts

Some commands are carried out by the script itself. A few of them are special: what goes wrong in
one of them ends the script, and assignments before it stay.
-/

namespace LineShell.Machine.Interpreter

/-- Prints words, with their escapes carried out. -/
def echo (args : List Octets) : Run Nat := do
  let (isBare, words) : Bool × List Octets :=
    match args with
    | ['-', 'n'] :: rest => (true, rest)
    | args => (false, args)
  let result := Escape.argument .builtin (spaced words)
  say (if isBare || result.stopped then result.text else line result.text)
  return 0

def printf (args : List Octets) : Run Nat := do
  let (_, operands) ← optionsOf "" args
  match operands with
  | [] => fail "usage: printf format [arg ...]"
  | template :: values =>
    let progress := Template.run .builtin template values
    for text in progress.warnings.reverse do complain text
    say progress.output
    match progress.fatal with
    | some text => fail text
    | none => return if progress.failed then 1 else 0

def test (words : List Octets) : Run Nat := do
  match Condition.evaluate (← get).job words with
  | .ok value => return if value then 0 else 1
  | .error text => fail text

def bracketTest (words : List Octets) : Run Nat := do
  if words.getLast? = some [']'] then test words.dropLast else fail "missing ]"

def exit (args : List Octets) : Run Nat := do
  let s ← get
  throw (.leave (← args.head?.elim (pure (s.kept.getD s.status)) natural))

/-- Leaves the function, or the text that is being run. -/
def returnFrom (args : List Octets) : Run Nat := do
  let s ← get
  throw (.leaveFunction (← args.head?.elim (pure s.status) natural))

/-- Leaves loops, or goes on with the next turn of one. -/
def leaveLoops (goesOn : Bool) (args : List Octets) : Run Nat := do
  let count ← match args with
    | [] => pure 1
    | text :: _ => do
      let n ← natural text
      if n = 0 then badNumber text else pure n
  let loops := (← get).loops
  conclude 0
  if loops = 0 then return 0 else throw (.leaveLoops (min count loops) goesOn)

/-- The commands run beside the script, the last one first. -/
def State.companions (s : State) : List Companion :=
  (s.beside.filterMap id).mergeSort fun x y => y.pid ≤ x.pid

def Companion.heard (c : Companion) : Companion :=
  { c with sleeps := false, isReaped := true, isHeard := true }

/-- Waits for commands run beside the script. What signal ended one is said if the script did not
know it. -/
def wait (args : List Octets) : Run Nat := do
  let (_, operands) ← optionsOf "" args
  if operands.isEmpty then
    changeCompanions Companion.heard
    return 0
  else
    let mut status := 0
    for text in operands do
      if text.head? = some '%' then fail ("No such job: " ++ text)
      let pid ← natural text
      match (← get).companions.find? (·.pid = pid) with
      | some c =>
        let (code, remark) := statusCode c.status
        status := code
        unless c.isReaped do act (warn remark)
        changeCompanions fun other => if other.pid = pid then c.heard else other
      | none => status := 127
    return status

/-- Has words stand for other texts, or says what they stand for. -/
def alias_ (args : List Octets) : Run Nat := do
  let s ← get
  let show_ (name value : Octets) : Run Unit := say (line (name ++ '=' :: requoted value))
  if args.isEmpty then
    for (name, value) in tabled 39 s.aliases do show_ name value
    return 0
  else
    let mut status := 0
    for word in args do
      let (rest, value) := settingOf (word.drop 1)
      let name := word.take 1 ++ rest
      match value with
      | some value =>
        modify fun s =>
          { s with
            aliases :=
              if (s.aliases.lookup name).isSome then
                s.aliases.map fun (other, old) => (other, if other = name then value else old)
              else s.aliases ++ [(name, value)] }
      | none =>
        match (← get).aliases.lookup name with
        | some value => show_ name value
        | none =>
          act (warn (line ("alias: " ++ name ++ " not found")))
          status := 1
    return status

/-- Has words stand for themselves again. -/
def unalias (args : List Octets) : Run Nat := do
  let (options, operands) ← optionsOf "a" args
  if !options.isEmpty then
    modify ({ · with aliases := [] })
    return 0
  else
    let mut status := 0
    for name in operands do
      let s ← get
      if (s.aliases.lookup name).isSome then
        set { s with aliases := s.aliases.filter (·.1 != name) }
      else
        act (warn (line ("unalias: " ++ name ++ " not found")))
        status := 1
    return status

/-- Says the limits of the process, of which there are none, or sets one, which changes nothing. -/
def ulimit (args : List Octets) : Run Nat := do
  let (_, operands) ← optionsOf "HSatfdsmcnpvlwr" args
  match operands with
  | [] => say (line "unlimited")
  | [text] =>
    unless text = "unlimited" || (!text.isEmpty && text.all Char.isDigit) do fail "bad number"
  | _ => fail "too many arguments"
  return 0

/-- Says the time that has been used, which is none. -/
def times (_ : List Octets) : Run Nat := do
  say (line "0m0.000000s 0m0.000000s" ++ line "0m0.000000s 0m0.000000s")
  return 0

/-- How a command run beside the script fares. -/
def Companion.condition (c : Companion) : Octets :=
  if c.sleeps then "Running"
  else
    match c.status.exitCode?, c.status.signal? with
    | none, some signal => Octets.ofString (WaitStatus.signalText signal)
    | code, _ =>
      let code := code.getD 0
      if code = 0 then "Done" else "Done(" ++ decimal code ++ [')']

/-- Tells of a command run beside the script in some place. -/
def Companion.report (c : Companion) (place : Nat) (mark : Char) : Octets :=
  let head := ['['] ++ decimal (place + 1) ++ "] " ++ [mark, ' '] ++ c.condition
  let others : Octets := (List.replicate (c.parts - 1) (Octets.ofString " | ")).flatten
  line (padded (max 33 (head.length + 1)) false ' ' head ++ others)

/-- Tells of the commands run beside the script, and forgets those that have come to their end. -/
def tellOfCompanions : List Companion → Run Unit
  | [] => return ()
  | c :: rest => do
    let s ← get
    let standing := s.companions
    let mark : Char :=
      if standing.head?.map (·.pid) = some c.pid then '+'
      else if (standing.drop 1).head?.map (·.pid) = some c.pid then '-'
      else ' '
    say (c.report (s.beside.findIdx fun other => other.map (·.pid) = some c.pid) mark)
    unless c.sleeps do
      modify fun s =>
        { s with beside := s.beside.map (·.filter (·.pid != c.pid)) }
    tellOfCompanions rest

/-- Tells of the commands run beside the script, or of one. -/
def jobs (args : List Octets) : Run Nat := do
  let (options, operands) ← optionsOf "lp" args
  match operands with
  | name :: _ => fail ("No such job: " ++ name)
  | [] =>
    let standing := (← get).companions
    if options.any (·.1 = 'p') then for c in standing do say (line (decimal c.pid))
    else tellOfCompanions standing
    return 0

/-- Would go on with a command, of which the script has none under its control. -/
def resume (args : List Octets) : Run Nat := do
  let (_, operands) ← optionsOf "" args
  match operands with
  | name :: _ => fail ("No such job: " ++ name)
  | [] => fail "No current job"

inductive Deed where
  | act (perform : List Octets → Run Nat)
  | evaluate
  | include_
  | replace
  /-- Finds a command by its name, without regard to functions. -/
  | find
  | describe
  /-- Searches for commands, and tells where they were found. -/
  | track

structure Builtin where
  isSpecial : Bool := false
  /-- Arguments that look like assignments are expanded as such. -/
  assigns : Bool := false
  deed : Deed

def Builtin.plain (perform : List Octets → Run Nat) : Builtin := { deed := .act perform }

def Builtin.special (perform : List Octets → Run Nat) : Builtin :=
  { isSpecial := true, deed := .act perform }

/-- An action that comes to a status and nothing else. -/
def idle (status : Nat) (_ : List Octets) : Run Nat := return status

def builtins : List (String × Builtin) := [
  (".", { isSpecial := true, deed := .include_ }),
  (":", .special (idle 0)),
  ("[", .plain bracketTest),
  ("alias", { assigns := true, deed := .act alias_ }),
  ("bg", .plain resume),
  ("break", .special (leaveLoops false)),
  ("cd", .plain cd),
  ("chdir", .plain cd),
  ("command", { deed := .find }),
  ("continue", .special (leaveLoops true)),
  ("echo", .plain echo),
  ("eval", { isSpecial := true, deed := .evaluate }),
  ("exec", { isSpecial := true, deed := .replace }),
  ("exit", .special exit),
  ("export", { isSpecial := true, assigns := true, deed := .act (mark .exported) }),
  ("false", .plain (idle 1)),
  ("fg", .plain resume),
  ("getopts", .plain getOption),
  ("hash", { deed := .track }),
  ("jobs", .plain jobs),
  ("kill", .plain kill),
  ("local", { isSpecial := true, assigns := true, deed := .act makeLocal }),
  ("printf", .plain printf),
  ("pwd", .plain pwd),
  ("read", .plain readLine),
  ("readonly", { isSpecial := true, assigns := true, deed := .act (mark .readOnly) }),
  ("return", .special returnFrom),
  ("set", .special setAll),
  ("shift", .special shift),
  ("test", .plain test),
  ("times", .special times),
  ("trap", .special trap),
  ("true", .plain (idle 0)),
  ("type", { deed := .describe }),
  ("ulimit", .plain ulimit),
  ("umask", .plain umask),
  ("unalias", .plain unalias),
  ("unset", .special unsetNames),
  ("wait", .plain wait)]

/-- The command of the script itself that a name stands for. -/
def builtin? (name : Octets) : Option Builtin := builtins.lookup (String.ofList name)

/-- The paths that a program may be started from: the first file along the search path and those
after it. -/
def programPaths (s : State) (search name : Octets) : Except IoError (List Path) :=
  let rec go (cause : IoError) : List Path → Except IoError (List Path)
    | [] => .error cause
    | path :: rest =>
      match s.job.files.resolve true s.job.dir path with
      | .error e => go (if e = .noSuchFile || e = .notADirectory then cause else e) rest
      | .ok id =>
        if s.job.files.kindOf id = .file && (s.job.files.mode id).mayExecute then .ok (path :: rest)
        else go .permissionDenied rest
  go .noSuchFile (candidatesOn search name)

/-- The search path that finds the programs of the system. -/
def standardPath : Octets := "/usr/sbin:/usr/bin:/sbin:/bin"

inductive Meaning where
  | function (body : Script.Command)
  | builtin (which : Builtin)
  | program

/-- What a name stands for; functions may be left out. -/
def meaning (s : State) (withFunctions : Bool) (name : Octets) : Meaning :=
  if name.contains '/' then .program
  else
    match if withFunctions then s.functions.lookup name else none with
    | some body => .function body
    | none =>
      match builtin? name with
      | some which => .builtin which
      | none => .program

def keepFound (name : Octets) (path : Path) : Run Unit :=
  modify fun s =>
    if (s.tracked.lookup name).isSome then s else { s with tracked := s.tracked ++ [(name, path)] }

/-- Searches for a command on the script's own path, and keeps in mind where it was found. -/
def searched (name : Octets) : Run (Except IoError (List Path)) := do
  let s ← get
  let found := programPaths s s.searchPath name
  match found with
  | .ok (path :: _) => keepFound name path
  | _ => pure ()
  return found

/-- Searches for commands again, or lists those that were found. -/
def track (args : List Octets) : Run Nat := do
  let (options, operands) ← optionsOf "r" args
  if !options.isEmpty then
    modify ({ · with tracked := [] })
    return 0
  else if operands.isEmpty then
    for (_, path) in tabled 31 (← get).tracked do say (line path)
    return 0
  else
    let mut status := 0
    for name in operands do
      modify fun s => { s with tracked := s.tracked.filter (·.1 != name) }
      match meaning (← get) true name with
      | .program =>
        match ← searched name with
        | .ok _ => pure ()
        | .error e =>
          complain (name ++ ": " ++ fileFault "not found" e)
          status := 1
      | _ => pure ()
    return status

/-- Says what a name stands for, in a sentence or in a word. -/
def describe (inSentence : Bool) (search : Octets) (name : Octets) : Run Nat := do
  let s ← get
  let answer (sentence word : Octets) : Run Nat := do
    say (line (if inSentence then name ++ sentence else word))
    return 0
  if (Script.keyword? name).isSome then answer " is a shell keyword" name
  else
    match s.aliases.lookup name with
    | some value =>
      answer (" is an alias for " ++ value) ("alias " ++ name ++ '=' :: requoted value)
    | none =>
      match meaning s true name with
      | .function _ => answer " is a shell function" name
      | .builtin which =>
        answer (if which.isSpecial then " is a special shell builtin" else " is a shell builtin")
          name
      | .program =>
        let missing : Run Nat := do
          if inSentence then say (line (name ++ ": not found"))
          return 127
        match s.tracked.lookup name with
        | some path => answer (" is a tracked alias for " ++ path) path
        | none =>
          if name.contains '/' then
            if s.job.files.existsAt true s.job.dir name then answer (" is " ++ name) name
            else missing
          else
            let found ←
              if search = s.searchPath then searched name else pure (programPaths s search name)
            match found with
            | .ok (path :: _) => answer (" is " ++ path) path
            | _ => missing

/-- Says what names stand for. -/
def describeAll (args : List Octets) : Run Nat := do
  let s ← get
  let mut status := 0
  for name in args do
    let found ← describe true s.searchPath name
    if found != 0 then status := found
  return status

/-- Says what a command stands for, if its options ask for that. -/
def describeCommand (args : List Octets) : Run Nat := do
  let (options, operands) ← optionsOf "pvV" args
  let letters := options.map (·.1)
  let s ← get
  let search := if letters.contains 'p' then standardPath else s.searchPath
  match operands with
  | name :: _ =>
    if letters.contains 'v' || letters.contains 'V' then
      describe (letters.contains 'V') search name
    else return 0
  | [] => return 0

/-- What a command line comes to after the words that only say how to find it. -/
structure Found where
  words : List Octets
  withFunctions : Bool := true
  search : Option Octets := none

/-- Leaves out the words before a command that only say how to find it, down to a number of them. -/
def findCommand (s : State) : (fuel : Nat) → Found → Found
  | 0, found => found
  | fuel + 1, found =>
    let rec afterOptions (search : Option Octets) : List Octets → Option (List Octets × Option Octets)
      | ['-', '-'] :: [] => none
      | ['-', '-'] :: rest => some (rest, search)
      | ('-' :: c :: letters) :: rest =>
        if (c :: letters).all (· = 'p') then afterOptions (some standardPath) rest else none
      | [] => none
      | words => some (words, search)
    match found.words with
    | name :: rest =>
      match meaning s found.withFunctions name with
      | .builtin { deed := .find, .. } =>
        match afterOptions found.search rest with
        | some (words, search) => findCommand s fuel { words, withFunctions := false, search }
        | none => found
      | _ => found
    | [] => found

end LineShell.Machine.Interpreter
