import LineShell.Machine.Interpreter.State

/-!
# Options

The options of commands are letters after a dash, some with a value. Scripts have options of their
own, which also have names.
-/

namespace LineShell.Machine.Interpreter

/-- Whether a letter is an option among the known ones, and whether it takes a value. -/
def optionKind? (known : Octets) (letter : Char) : Option Bool :=
  match known with
  | [] => none
  | c :: ':' :: rest => if c = letter then some true else optionKind? rest letter
  | c :: rest => if c = letter then some false else optionKind? rest letter

/-- Reads the letters of one argument. Gives the options, and what is left of the arguments. -/
def optionLetters (known : Octets) :
    Octets → List Octets → Run (List (Char × Octets) × List Octets)
  | [], later => return ([], later)
  | letter :: rest, later => do
    match optionKind? known letter with
    | none => fail ("Illegal option -" ++ [letter])
    | some false =>
      let (options, later) ← optionLetters known rest later
      return ((letter, []) :: options, later)
    | some true =>
      if !rest.isEmpty then return ([(letter, rest)], later)
      else
        match later with
        | [] => fail ("No arg for -" ++ [letter] ++ " option")
        | value :: later => return ([(letter, value)], later)

/-- Splits the options of a command from its operands, down to a number of arguments. A colon after
a known letter says that it takes a value. -/
def optionsFrom (known : Octets) : (fuel : Nat) → List Octets →
    Run (List (Char × Octets) × List Octets)
  | 0, args => return ([], args)
  | fuel + 1, args =>
    match args with
    | ['-', '-'] :: rest => return ([], rest)
    | ('-' :: letter :: letters) :: rest => do
      let (first, rest) ← optionLetters known (letter :: letters) rest
      let (more, rest) ← optionsFrom known fuel rest
      return (first ++ more, rest)
    | _ => return ([], args)

/-- Splits the options of a command from its operands. -/
def optionsOf (known : String) (args : List Octets) : Run (List (Char × Octets) × List Octets) :=
  optionsFrom known.toList (args.length + 1) args

/-- The options of scripts: their names and letters. An option without a letter has a blank. -/
def scriptOptions : List (String × Char) := [
  ("errexit", 'e'), ("noglob", 'f'), ("ignoreeof", 'I'), ("interactive", 'i'), ("monitor", 'm'),
  ("noexec", 'n'), ("stdin", 's'), ("xtrace", 'x'), ("verbose", 'v'), ("vi", 'V'), ("emacs", 'E'),
  ("noclobber", 'C'), ("allexport", 'a'), ("notify", 'b'), ("nounset", 'u'),
  ("privileged", 'p'), ("nolog", ' '),
  ("debug", ' ')]

/-- Sets an option of the script, or takes it back. No script has the terminal that one of them
needs. -/
def setOption (letter : Char) (on : Bool) : Run Unit := do
  if letter = 'm' && on then complain "can't access tty; job control turned off"
  else if scriptOptions.any (·.2 = letter) && letter != ' ' then
    modify fun s =>
      let others := s.options.filter (· != letter)
      { s with options := if on then letter :: others else others }
  else fail ("Illegal option -" ++ [letter])

def setNamedOption (name : Octets) (on : Bool) : Run Unit := do
  match scriptOptions.lookup (String.ofList name) with
  | some letter => if letter = ' ' then return () else setOption letter on
  | none => fail ("Illegal option -o " ++ name)

def listOptions (asCommands : Bool) : Run Unit := do
  let s ← get
  unless asCommands do say (line "Current option settings")
  for (name, letter) in scriptOptions do
    let on := s.options.contains letter
    if asCommands then say (line ((if on then "set -o " else "set +o ") ++ Octets.ofString name))
    else say (line (padded 16 false ' ' name ++ (if on then "on" else "off")))

inductive OptionUse where
  | start
  | change
  deriving DecidableEq, Repr

/-- What the arguments that set options come to. -/
structure OptionReading where
  rest : List Octets
  isText : Bool := false
  /-- There were dashes alone, so that the rest replaces the arguments even if there is none. -/
  replaces : Bool := false

/-- Sets the options of one argument. Gives what is left of the arguments. -/
def setLetters (use : OptionUse) (on : Bool) :
    Octets → List Octets → Run (List Octets × Bool)
  | [], later => return (later, false)
  | letter :: rest, later => do
    if letter = 'c' && use = .start then
      let (later, _) ← setLetters use on rest later
      return (later, true)
    else if letter = 'o' then
      match later with
      | [] =>
        listOptions !on
        setLetters use on rest later
      | name :: later =>
        setNamedOption name on
        setLetters use on rest later
    else if letter = 'l' && use = .start then setLetters use on rest later
    else
      setOption letter on
      setLetters use on rest later

/-- Sets options as arguments say, down to a number of them. -/
def setOptionsFrom (use : OptionUse) : (fuel : Nat) → List Octets → Run OptionReading
  | 0, args => return { rest := args }
  | fuel + 1, args =>
    match args with
    | ['-'] :: rest => do
      if use = .change then
        setOption 'x' false
        setOption 'v' false
      return { rest }
    | ['-', '-'] :: rest => return { rest, replaces := use = .change }
    | (sign :: letters) :: rest => do
      if sign = '-' || sign = '+' then
        let (rest, isText) ← setLetters use (sign = '-') letters rest
        let more ← setOptionsFrom use fuel rest
        return { more with isText := more.isText || isText }
      else return { rest := args }
    | _ => return { rest := args }

/-- Sets options as arguments say. -/
def setOptions (use : OptionUse) (args : List Octets) : Run OptionReading :=
  setOptionsFrom use (args.length + 1) args

end LineShell.Machine.Interpreter
