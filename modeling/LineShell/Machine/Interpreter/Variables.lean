import LineShell.Machine.Interpreter.Signals

/-!
# Variables and arguments

The commands that set, mark and list variables, and those that change the arguments and the options
of a script.
-/

namespace LineShell.Machine.Interpreter

inductive Mark where
  | exported
  | readOnly
  deriving DecidableEq, Repr

def Mark.command : Mark → String
  | .exported => "export"
  | .readOnly => "readonly"

def Variable.has (v : Variable) : Mark → Bool
  | .exported => v.exported
  | .readOnly => v.readOnly

def Variable.marked (v : Variable) : Mark → Variable
  | .exported => { v with exported := true }
  | .readOnly => { v with readOnly := true }

def State.sortedVariables (s : State) : List (Octets × Variable) :=
  s.bindings.mergeSort fun x y => notAfter x.1 y.1

/-- An assignment that a script could read again. -/
def assignmentText (name : Octets) (value : Option Octets) : Octets :=
  match value with
  | some value => name ++ '=' :: requoted value
  | none => name

def listMarked (mark : Mark) : Run Nat := do
  for (name, v) in (← get).sortedVariables do
    if v.has mark then say (line (mark.command ++ ' ' :: assignmentText name v.value))
  return 0

/-- What a word sets: a name, and a value if there is a sign. -/
def settingOf (word : Octets) : Octets × Option Octets :=
  let name := word.takeWhile (· != '=')
  (name, if name.length = word.length then none else some (word.drop (name.length + 1)))

def mark (mark : Mark) (args : List Octets) : Run Nat := do
  let (options, operands) ← optionsOf "p" args
  if operands.isEmpty || !options.isEmpty then listMarked mark
  else
    for word in operands do
      let (name, value) := settingOf word
      requireName name
      match value with
      | some value => assign name value
      | none => pure ()
      let s ← get
      let v := (s.variableOf? name).getD { value := none }
      set (s.withVariable name (some (v.marked mark)))
    return 0

/-- Makes variables, or the options, local to the function. -/
def makeLocal (args : List Octets) : Run Nat := do
  if (← get).functionDepth = 0 then fail "not in a function"
  else
    for word in args do
      if word = ['-'] then keepOptions
      else
        let (name, value) := settingOf word
        requireName name
        keepLocal name
        match value with
        | some value => assign name value
        | none => pure ()
    return 0

/-- Takes variables or functions away. -/
def unsetNames (args : List Octets) : Run Nat := do
  let (options, operands) ← optionsOf "vf" args
  for name in operands do
    if (options.getLast?.map (·.1)) = some 'f' then
      modify fun s => { s with functions := s.functions.filter (·.1 != name) }
    else
      requireName name
      unassign name
  return 0

/-- Sets options and arguments, or lists the variables. -/
def setAll (args : List Octets) : Run Nat := do
  if args.isEmpty then
    for (name, v) in (← get).sortedVariables do
      match v.value with
      | some value => say (line (assignmentText name value))
      | none => pure ()
  else
    let reading ← setOptions .change args
    if reading.replaces || !reading.rest.isEmpty then
      modify ({ · with arguments := reading.rest })
  return 0

def shift (args : List Octets) : Run Nat := do
  let count ← match args with
    | [] => pure 1
    | text :: _ => natural text
  let s ← get
  if s.arguments.length < count then fail "can't shift that many"
  else
    set { s with arguments := s.arguments.drop count }
    return 0

/-- What is found of the next option among arguments. -/
structure OptionStep where
  letter : Char := '?'
  /-- The value to keep; the outer `none` leaves it, the inner one unsets it. -/
  value : Option (Option Octets) := none
  next : Nat
  /-- How far the argument before has been read; 0 if to its end. -/
  place : Nat := 0
  complaint : Option Octets := none
  done : Bool := false

/-- Takes an option letter with what follows it in its argument. -/
def optionStep (known : Octets) (args : List Octets) (next place : Nat) (letter : Char)
    (rest : Octets) : OptionStep :=
  let isQuiet : Bool := known.head? = some ':'
  let after : Nat := if rest.isEmpty then 0 else place
  match optionKind? (if isQuiet then known.drop 1 else known) letter with
  | none =>
    if isQuiet then { value := some (some [letter]), next, place := after }
    else
      { value := some none, next, place := after
        complaint := some ("Illegal option -" ++ [letter]) }
  | some false => { letter, value := some (some []), next, place := after }
  | some true =>
    if !rest.isEmpty then { letter, value := some (some rest), next }
    else
      match args[next - 1]? with
      | some value => { letter, value := some (some value), next := next + 1 }
      | none =>
        if isQuiet then { letter := ':', value := some (some [letter]), next }
        else
          { value := some none, next
            complaint := some ("No arg for -" ++ [letter] ++ " option") }

/-- Finds the next option among arguments. -/
def nextOption (known : Octets) (args : List Octets) (index place : Nat) : OptionStep :=
  let open_ : Octets :=
    if 1 < index && 0 < place then ((args[index - 2]?).getD []).drop place else []
  match open_ with
  | letter :: rest => optionStep known args index (place + 1) letter rest
  | [] =>
    match args[index - 1]? with
    | some ['-', '-'] => { next := index + 1, done := true }
    | some ('-' :: letter :: rest) => optionStep known args (index + 1) 2 letter rest
    | _ => { next := index, done := true }

/-- Gives the next option of the arguments to a variable. -/
def getOption (args : List Octets) : Run Nat := do
  let (_, operands) ← optionsOf "" args
  match operands with
  | known :: name :: given =>
    let s ← get
    let texts := if given.isEmpty then s.arguments else given
    let index := ((s.text? "OPTIND").bind number?).getD 1
    let (index, place) :=
      if index = 0 || texts.length + 1 < index then (1, 0) else (index, s.optionPlace)
    let step := nextOption known texts index place
    match step.complaint with
    | some text => act (warn (line text))
    | none => pure ()
    match step.value with
    | some (some value) => assign "OPTARG" value
    | some none => unassign "OPTARG"
    | none => pure ()
    assign "OPTIND" (decimal step.next)
    requireName name
    assign name [step.letter]
    modify ({ · with optionPlace := step.place })
    return if step.done then 1 else 0
  | _ => fail "Usage: getopts optstring var [arg...]"

/-- The letters of what a mask leaves to one class of users. -/
def maskLetters (mask shift : Nat) : Octets :=
  let bits := mask >>> shift
  (if bits.testBit 2 then [] else ['r']) ++ (if bits.testBit 1 then [] else ['w']) ++
    (if bits.testBit 0 then [] else ['x'])

/-- Says or sets which permissions new files do not get. -/
def umask (args : List Octets) : Run Nat := do
  let (options, operands) ← optionsOf "S" args
  let s ← get
  let mask := s.job.umask
  match operands with
  | [] =>
    if options.isEmpty then say (line (digitsIn 8 4 mask))
    else
      say (line ("u=" ++ maskLetters mask 6 ++ ",g=" ++ maskLetters mask 3 ++ ",o=" ++
        maskLetters mask 0))
    return 0
  | text :: _ =>
    let mask ←
      if (text.head?.map Char.isDigit) = some true then
        if text.all (isDigitIn 8) then pure (numberIn 8 text &&& 0o777) else badNumber text
      else
        match Mode.changes? text with
        | some changes =>
          pure (0o777 - (Mode.change 0 true changes (0o777 - mask) &&& 0o777))
        | none => fail ("Illegal mode: " ++ text)
    set { s with job := { s.job with umask := mask } }
    return 0

end LineShell.Machine.Interpreter
