import LineShell.Machine.Tools.Processes

/-!
# Environments

Programs that show the variables they got, and that start another program with other ones. The
arguments for that may come in one text, which is split into words.
-/

namespace LineShell.Machine.Tools

def binding (variable_ : Octets × Octets) : Octets := variable_.1 ++ '=' :: variable_.2

/-- The name and the value that a text sets. -/
def binding? (text : Octets) : Option (Octets × Octets) :=
  let name := text.takeWhile (· != '=')
  if name.length = text.length then none else some (name, text.drop (name.length + 1))

/-- Variables with one of them set. A new one comes last. -/
def withBinding (variables_ : List (Octets × Octets)) (name value : Octets) :
    List (Octets × Octets) :=
  if (variables_.lookup name).isSome then
    variables_.map fun (other, old) => (other, if other = name then value else old)
  else variables_ ++ [(name, value)]

/-- The byte that a letter after a backslash stands for. -/
def escapedByte? (letter : Char) : Option Char :=
  if "\"#$'\\".toList.contains letter then some letter
  else [('f', '\x0c'), ('n', '\n'), ('r', '\r'), ('t', '\t'), ('v', '\x0b')].lookup letter

/-- The name in braces after a sign, and what follows it. -/
def bracedName? (text : Octets) : Option (Octets × Octets) :=
  match text with
  | '\x7b' :: rest =>
    let name := rest.takeWhile isNameByte
    match rest.drop name.length with
    | '\x7d' :: after => if name.head?.any isNameStart then some (name, after) else none
    | _ => none
  | _ => none

/-- The words of a text. Quotes keep blanks in a word, a name in braces stands for the value of a
variable, and a hash at the start of a word ends the text. -/
def splitText (value? : Octets → Option Octets) : (fuel : Nat) → (quote : Option Char) →
    (current : Option Octets) → Octets → Except Octets (List Octets)
  | 0, _, current, _ => .ok current.toList
  | fuel + 1, quote, current, text =>
    let soFar := current.getD []
    let goOn (bytes rest : Octets) := splitText value? fuel quote (some (soFar ++ bytes)) rest
    let nextWord (rest : Octets) : Except Octets (List Octets) :=
      (splitText value? fuel quote none rest).map (current.toList ++ ·)
    match text with
    | [] => if quote.isSome then .error "no terminating quote in -S string" else .ok current.toList
    | '\\' :: rest =>
      match quote, rest with
      | some '\'', '\\' :: rest => goOn ['\\'] rest
      | some '\'', '\'' :: rest => goOn ['\''] rest
      | some '\'', _ => goOn ['\\'] rest
      | _, [] => .error "invalid backslash at end of string in -S"
      | none, '_' :: rest => nextWord rest
      | _, '_' :: rest => goOn [' '] rest
      | none, 'c' :: _ => .ok current.toList
      | _, 'c' :: _ => .error "'\\c' must not appear in double-quoted -S string"
      | _, letter :: rest =>
        match escapedByte? letter with
        | some byte => goOn [byte] rest
        | none => .error ("invalid sequence '\\" ++ [letter] ++ "' in -S")
    | c :: rest =>
      if (c = '\'' || c = '"') && quote.all (· = c) then
        splitText value? fuel (if quote.isSome then none else some c) (some soFar) rest
      else if quote.isNone && isWhiteByte c then nextWord rest
      else if c = '#' && current.isNone then .ok []
      else if c = '$' && quote != some '\'' then
        match bracedName? rest with
        | none =>
          .error ("only $\x7bVARNAME\x7d expansion is supported, error at: " ++ text)
        | some (name, rest) =>
          match value? name with
          | some value => goOn value rest
          | none => splitText value? fuel quote current rest
      else goOn [c] rest

def environmentChoices : List Choice :=
  [⟨'i', "ignore-environment", .nothing⟩, ⟨'u', "unset", .value⟩, ⟨'C', "chdir", .value⟩,
    ⟨'0', "null", .nothing⟩, ⟨'S', "split-string", .value⟩, ⟨'v', "debug", .nothing⟩,
    ⟨' ', "block-signal", .maybe⟩, ⟨' ', "default-signal", .maybe⟩,
    ⟨' ', "ignore-signal", .maybe⟩, ⟨' ', "list-signal-handling", .nothing⟩]

/-- What the program for environments says of a text it has split. -/
def splitNotes (text : Octets) : List Octets → List Octets
  | [] => []
  | first :: rest =>
    ("split -S:  " ++ quotedWord text) :: (" into:    " ++ quotedWord first) ::
      rest.map fun word => "     &    " ++ quotedWord word

/-- Why the program for environments refuses a call. -/
def environmentRefusal (text : Octets) (isMisuse : Bool) : Refusal :=
  { text, pointsToHelp := isMisuse, code := 125 }

/-- Reads the options of the program for environments, down to a number of arguments. Words that a
text is split into are read as arguments. -/
def environmentOptions (value? : Octets → Option Octets) : (fuel : Nat) → (told : Bool) →
    (notes : List Octets) → List Octets → List Octets × Except Refusal Given
  | 0, _, notes, args => (notes, .ok ⟨[], args⟩)
  | fuel + 1, told, notes, args =>
    let goOn (found : List (String × Option Octets)) (rest : List Octets) :
        List Octets × Except Refusal Given :=
      let told := told || found.any (·.1 = "v")
      match found.getLast? with
      | some ("S", some text) =>
        match splitText value? (text.length + 1) none none text with
        | .error fault => (notes, .error (environmentRefusal fault false))
        | .ok words =>
          let notes := if told then notes ++ splitNotes text words else notes
          let (notes, given) := environmentOptions value? fuel told notes (words ++ rest)
          (notes, given.map fun given => { given with set_ := found.dropLast ++ given.set_ })
      | _ =>
        let (notes, given) := environmentOptions value? fuel told notes rest
        (notes, given.map fun given => { given with set_ := found ++ given.set_ })
    match args with
    | ['-', '-'] :: rest => (notes, .ok ⟨[], rest⟩)
    | ('-' :: '-' :: name) :: rest =>
      match readLong environmentChoices name rest with
      | .error text => (notes, .error (environmentRefusal text true))
      | .ok (found, rest) => goOn [found] rest
    | ('-' :: letter :: more) :: rest =>
      match readLetters environmentChoices (letter :: more) rest with
      | .error text => (notes, .error (environmentRefusal text true))
      | .ok (found, rest) => goOn found rest
    | operands => (notes, .ok ⟨[], operands⟩)

/-- How many options may be read that come from texts in other texts. -/
def environmentBudget : Nat := 10000

/-- What a call of the program for environments asks for. -/
structure EnvironmentCall where
  given : Given
  environment : List (Octets × Octets)
  command : List Octets
  notes : List Octets

def environmentCall (job : Job) (args : List Octets) :
    List Octets × Except Refusal EnvironmentCall :=
  let (notes, result) := environmentOptions job.value? environmentBudget false [] args
  match result with
  | .error refusal => (notes, .error refusal)
  | .ok given =>
    let (isBare, rest) :=
      match given.operands with
      | ['-'] :: rest => (true, rest)
      | rest => (given.has "i", rest)
    let dropped := given.values "u"
    match if isBare then none else dropped.find? fun name => name.isEmpty || name.contains '=' with
    | some name =>
      let text := "cannot unset " ++ quotedWord name ++ ": " ++
        Octets.ofString IoError.invalidArgument.text
      (notes, .error (environmentRefusal text false))
    | none =>
      let bindings := rest.takeWhile fun text => (binding? text).isSome
      let kept :=
        if isBare then [] else job.environment.filter fun (name, _) => !dropped.contains name
      let environment := (bindings.filterMap binding?).foldl
        (fun all (name, value) => withBinding all name value) kept
      let changes : List Octets :=
        if isBare then ["cleaning environ"] else dropped.map fun name => "unset:    " ++ name
      let more := changes ++ bindings.map fun text => Octets.ofString "setenv:   " ++ text
      (notes, .ok {
        given, environment, command := rest.drop bindings.length
        notes := if given.has "v" then more else [] })

def startNotes (command : List Octets) : List Octets :=
  ("executing: " ++ command.headD []) ::
    command.zipIdx.map fun (word, n) => "   arg[" ++ decimal n ++ "]= " ++ quotedWord word

/-- Starts a program with another environment, in another directory if one is given. -/
def startWith (launch : Launcher) (call : EnvironmentCall) (job : Job) : Ended :=
  let place := call.given.value? "C"
  let told (notes : List Octets) : Act Unit := do
    if call.given.has "v" then for text in notes do warn (line text)
  let entered : Except IoError Job :=
    match place with
    | none => .ok job
    | some place => (job.files.enter job.dir place).map fun dir => { job with dir }
  let ((), job) := (told (place.toList.map fun place => "chdir:    " ++ quotedName place)).run job
  match entered with
  | .error e =>
    runAct (do
      complainOf ("cannot change directory to " ++ quotedName (place.getD [])) e
      return 125) job
  | .ok { dir, .. } =>
    let ((), job) := (told (startNotes call.command)).run job
    match startNamed launch { job with dir, environment := call.environment } call.command with
    | .ok ended => ended
    | .error e =>
      let name := call.command.headD []
      runAct (do
        complainOf (quotedWord name) e
        if e = .noSuchFile && name.any isWhiteByte then
          complain "use -[v]S to pass options in shebang lines"
        return if e = .noSuchFile then 127 else 126) job

/-- Shows the variables, or starts a program with others. -/
def env (launch : Launcher) (job : Job) (args : List Octets) : Ended :=
  let say_ (notes : List Octets) : Act Unit := do for text in notes do warn (line text)
  let (notes, result) := environmentCall job args
  let ((), job) := (say_ notes).run job
  match result with
  | .error refusal =>
    runAct (do
      complain refusal.text
      if ["invalid option -- ' '", "invalid option -- '\t'"].any
          (refusal.text = Octets.ofString ·) then
        complain "use -[v]S to pass options in shebang lines"
      if refusal.pointsToHelp then pointToHelp
      return refusal.code) job
  | .ok call =>
    let ((), job) := (say_ call.notes).run job
    if call.command.isEmpty then
      if call.given.has "C" then
        runAct (misuse 125 "must specify command with --chdir (-C)") job
      else runAct (sayEach (call.given.has "0") (call.environment.map binding)) job
    else if call.given.has "0" then
      runAct (misuse 125 "cannot specify --null (-0) with command") job
    else startWith launch call job

/-- Shows the values of variables, or all variables. -/
def printenv (args : List Octets) : Act Nat := do
  let job ← get
  match readFrom [⟨'0', "null", .nothing⟩] true (args.length + 1) args with
  | .error text => misuse 2 text
  | .ok given =>
    if given.operands.isEmpty then sayEach (given.has "0") (job.environment.map binding)
    else
      let values := given.operands.map fun name =>
        if name.isEmpty || name.contains '=' then none else job.value? name
      let _ ← sayEach (given.has "0") (values.filterMap id)
      return if values.all Option.isSome then 0 else 1

end LineShell.Machine.Tools
