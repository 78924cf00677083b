import LineShell.Machine.FileTest

/-!
# Programs

What the programs of a machine have in common: they read options, complain with their name, and go
on with their other operands where one fails.
-/

namespace LineShell.Machine.Tools

def complain (text : Octets) : Act Unit := do
  let job ← get
  warn (line (job.name ++ ": " ++ text))

def complainOf (what : Octets) (e : IoError) : Act Unit :=
  complain (what ++ ": " ++ Octets.ofString e.text)

def pointToHelp : Act Unit := do
  let job ← get
  warn (line ("Try '" ++ job.name ++ " --help' for more information."))

/-- Complains of a wrong use, and ends with a code. -/
def misuse (code : Nat) (text : Octets) : Act Nat := do
  complain text
  pointToHelp
  return code

/-- Whether an option takes a value. -/
inductive Takes where
  | nothing
  | value
  | maybe
  deriving DecidableEq, Repr

structure Choice where
  letter : Char
  name : String
  takes : Takes := .nothing

/-- What a choice is asked for by: its letter, or its name if there is none. -/
def Choice.key (c : Choice) : String := if c.letter = ' ' then c.name else String.singleton c.letter

/-- The options and the operands of a call. -/
structure Given where
  set_ : List (String × Option Octets)
  operands : List Octets

namespace Given

def has (g : Given) (key : String) : Bool := g.set_.any (·.1 = key)

def value? (g : Given) (key : String) : Option Octets :=
  (g.set_.reverse.find? (·.1 = key)).bind (·.2)

def values (g : Given) (key : String) : List Octets :=
  g.set_.filterMap fun (other, value) => if other = key then value else none

def last? (g : Given) (keys : List String) : Option String :=
  (g.set_.reverse.find? fun (key, _) => keys.contains key).map (·.1)

def after (g : Given) (key : String) (value : Option Octets) : Given :=
  { g with set_ := (key, value) :: g.set_ }

end Given

/-- A list of options without values, by their letters. -/
def letters (text : String) : List Choice := text.toList.map fun letter => ⟨letter, "", .nothing⟩

/-- The options of one argument of letters. What follows a letter that takes a value is the value. -/
def readLetters (choices : List Choice) :
    Octets → List Octets → Except Octets (List (String × Option Octets) × List Octets)
  | [], later => .ok ([], later)
  | letter :: rest, later =>
    match choices.find? fun c => c.letter = letter && letter != ' ' with
    | none => .error ("invalid option -- " ++ betweenQuotes [letter])
    | some choice =>
      match choice.takes with
      | .nothing =>
        match readLetters choices rest later with
        | .ok (more, later) => .ok ((choice.key, none) :: more, later)
        | .error text => .error text
      | .maybe => .ok ([(choice.key, if rest.isEmpty then none else some rest)], later)
      | .value =>
        if !rest.isEmpty then .ok ([(choice.key, some rest)], later)
        else
          match later with
          | value :: later => .ok ([(choice.key, some value)], later)
          | [] => .error ("option requires an argument -- " ++ betweenQuotes [letter])

/-- The option of one long argument, which may be abbreviated. -/
def readLong (choices : List Choice) (argument : Octets) (later : List Octets) :
    Except Octets ((String × Option Octets) × List Octets) :=
  let name := argument.takeWhile (· != '=')
  let joined : Option Octets :=
    if name.length = argument.length then none else some (argument.drop (name.length + 1))
  let called := "--" ++ argument
  let named := choices.filter fun c => !c.name.isEmpty
  let matching :=
    match named.find? fun c => Octets.ofString c.name = name with
    | some choice => [choice]
    | none => named.filter fun c => startsWith name c.name
  match matching with
  | [] => .error ("unrecognized option " ++ betweenQuotes called)
  | choice :: others =>
    let different := others.filter (·.key != choice.key)
    if !different.isEmpty then
      .error ("option " ++ betweenQuotes called ++ " is ambiguous; possibilities:" ++
        (choice :: different).flatMap fun c =>
          ' ' :: betweenQuotes ("--" ++ Octets.ofString c.name))
    else
      let full := "--" ++ Octets.ofString choice.name
      match choice.takes, joined with
      | .nothing, some _ => .error ("option " ++ betweenQuotes full ++ " doesn't allow an argument")
      | .nothing, none | .maybe, none => .ok ((choice.key, none), later)
      | .maybe, some value | .value, some value => .ok ((choice.key, some value), later)
      | .value, none =>
        match later with
        | value :: later => .ok ((choice.key, some value), later)
        | [] => .error ("option " ++ betweenQuotes full ++ " requires an argument")

/-- Splits options from operands, down to a number of arguments. Where the first operand ends the
options, all that follows is operands. -/
def readFrom (choices : List Choice) (endsEarly : Bool) : (fuel : Nat) → List Octets →
    Except Octets Given
  | 0, args => .ok ⟨[], args⟩
  | fuel + 1, args =>
    match args with
    | [] => .ok ⟨[], []⟩
    | ['-', '-'] :: rest => .ok ⟨[], rest⟩
    | ('-' :: '-' :: name) :: rest =>
      match readLong choices name rest with
      | .error text => .error text
      | .ok ((key, value), rest) =>
        match readFrom choices endsEarly fuel rest with
        | .ok given => .ok (given.after key value)
        | .error text => .error text
    | ('-' :: letter :: more) :: rest =>
      match readLetters choices (letter :: more) rest with
      | .error text => .error text
      | .ok (first, rest) =>
        match readFrom choices endsEarly fuel rest with
        | .ok given => .ok { given with set_ := first ++ given.set_ }
        | .error text => .error text
    | operand :: rest =>
      if endsEarly then .ok ⟨[], operand :: rest⟩
      else
        match readFrom choices endsEarly fuel rest with
        | .ok given => .ok { given with operands := operand :: given.operands }
        | .error text => .error text

/-- Reads the options of a call and goes on with them; a wrong use ends with a code. -/
def withOptions (choices : List Choice) (code : Nat) (args : List Octets)
    (body : Given → Act Nat) : Act Nat :=
  match readFrom choices false (args.length + 1) args with
  | .ok given => body given
  | .error text => misuse code text

structure Refusal where
  text : Octets
  details : List Octets := []
  pointsToHelp : Bool := false
  code : Nat := 1

/-- Says why a call is refused, and ends. -/
def Refusal.answer (r : Refusal) : Act Nat := do
  complain r.text
  for text in r.details do warn (line text)
  if r.pointsToHelp then pointToHelp
  return r.code

/-- The meaning of a word that an option has as its value. Words may be abbreviated; those of one
group mean the same. -/
def meaningOf {α : Type} (option : String) (groups : List (List String × α)) (word : Octets) :
    Except Refusal α :=
  let holds (test : Octets → Bool) := groups.filter fun group =>
    group.1.any fun name => test (Octets.ofString name)
  let refusal (what : Octets) : Except Refusal α :=
    .error {
      text := what ++ " argument " ++ quotedWord word ++ " for " ++
        quotedWord (Octets.ofString option)
      details := "Valid arguments are:" :: groups.map fun (names, _) =>
        "  - " ++ joined [',', ' '] (names.map fun name => quotedWord (Octets.ofString name))
      pointsToHelp := true }
  match holds (· = word) with
  | (_, meaning) :: _ => .ok meaning
  | [] =>
    match holds (startsWith word) with
    | [(_, meaning)] => .ok meaning
    | [] => refusal "invalid"
    | _ => refusal "ambiguous"

/-- Does something for each operand. The code is the greatest. -/
def forEach (operands : List Octets) (action : Octets → Act Nat) : Act Nat := do
  let mut code := 0
  for operand in operands do code := max code (← action operand)
  return code

def refuse (text : Octets) : Act Nat := do
  complain text
  return 1

def refuseOf (what : Octets) (e : IoError) : Act Nat := do
  complainOf what e
  return 1

/-- Reads a line of a descriptor, without what ends it. -/
def nextLine (fd : Nat) : Act Octets := do
  let job ← get
  let text := ((job.unread fd).toOption.getD []).takeWhile (· != '\n')
  set (job.skip fd (text.length + 1))
  return text

/-- Asks a question. An answer that starts with `y` agrees. -/
def agrees (question : Octets) : Act Bool := do
  let job ← get
  warn (job.name ++ ": " ++ question ++ "? ")
  let answer ← nextLine 0
  return answer.head? = some 'y' || answer.head? = some 'Y'

/-- Whether to go on, asked if it is to be asked. -/
def goesOn (asks : Bool) (question : Octets) : Act Bool := if asks then agrees question else return true

/-- Carries out a change of the files; what keeps it from being made is complained of. -/
def change (change : FileTree → Except IoError FileTree) (what : Octets) : Act Nat := do
  match ← changeFiles change with
  | .ok () => return 0
  | .error e =>
    complainOf what e
    return 1

/-- Reads a file, or the input for a dash. -/
def readOperand (path : Path) : Act (Except IoError Octets) :=
  if path = ['-'] then readRest 0 else readPath path

/-- Whether an operand has something that the output leads to as well. -/
def copiesOutput (path : Path) : Act Bool := do
  let job ← get
  if path = ['-'] then return job.readsOutput && (job.unread 0).toOption.any (!·.isEmpty)
  else return job.isOutput path && (job.files.readFile job.dir path).toOption.any (!·.isEmpty)

/-- Reads files one after the other, or the input if there are none. What cannot be read is
complained of. -/
def readAll (operands : List Octets) (action : Path → Octets → Act Nat) : Act Nat :=
  forEach (if operands.isEmpty then [['-']] else operands) fun path => do
    match ← readOperand path with
    | .ok data => action path data
    | .error e =>
      complainOf (shownName path) e
      return 1

/-- What a program leaves that has ended with a code. Output that could not be written is a
failure. -/
def ended (code : Nat) (job : Job) : Ended :=
  match job.writeFault with
  | none => ⟨job.world, .exited code⟩
  | some e =>
    let ((), job) := (complainOf "write error" e).run job
    ⟨job.world, .exited (max code 1)⟩

def runAct (program : Act Nat) (job : Job) : Ended :=
  let (code, job) := program.run job
  ended code job

end LineShell.Machine.Tools
