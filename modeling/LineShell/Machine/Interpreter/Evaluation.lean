import LineShell.Machine.Interpreter.Programs

/-!
# Running commands

A command changes the state of its script and leaves a status. Parts of a script that run apart from
it, such as the commands of a pipeline, act on a state of their own, of which only the world comes
back. How programs are started is left to whoever runs the script.
-/

namespace LineShell.Machine.Interpreter

open Machine.Script (Command Reader Redirection Word)

/-- What a script would see if it were another process. -/
def State.apart (s : State) (job : Job) : State :=
  { s with job, traps := s.traps.filter (·.2.isEmpty), beside := [] }

/-- One turn of a loop. Says whether the loop goes on. -/
def turn (action : Run Unit) : Run Bool := do
  match ← observed action with
  | .ok () => return true
  | .error (.leaveLoops (n + 2) goesOn) => throw (.leaveLoops (n + 1) goesOn)
  | .error (.leaveLoops _ goesOn) => return goesOn
  | .error interrupt => throw interrupt

def insideLoop (action : Run Unit) : Run Unit := do
  modify fun s => { s with loops := s.loops + 1 }
  ensuring action (modify fun s => { s with loops := s.loops - 1 })

/-- Ends the script if its options say that a failure does. -/
def checkFailure (manner : Manner) : Run Unit := do
  let s ← get
  if s.status != 0 && !manner.isTested && s.options.contains 'e' then throw (.leave s.status)

def readingBudget (text : Octets) : Nat := 8 * text.length + 1000

/-- The bytes that a script takes of its input at once. -/
def inputBlock : Nat := 8192

/-- Where the text of commands comes from. -/
inductive Origin where
  | text
  | file
  | input
  deriving DecidableEq, Repr

/-- The beginning of a text, to the end of a line that is counted from some number. -/
def linesUpTo (first last : Nat) (text : Octets) : Octets :=
  ((linesOf text).take (last + 1 - first)).flatten

/-- Reads the next command. A script that comes from the input takes another block if what it has is
not enough. -/
def nextCommand (origin : Origin) : (fuel : Nat) → Reader → Run (Option Command × Bool × Reader)
  | 0, _ => fail "Syntax error: end of file unexpected"
  | fuel + 1, reader => do
    let s ← get
    let reader := { reader with documents := s.documents, aliases := s.aliases }
    let more : Octets :=
      match if origin = .input then s.job.unread 0 else .ok [] with
      | .ok data => data.take inputBlock
      | .error _ => []
    let isShown : Bool := origin != .text && s.options.contains 'v'
    let again : Run (Option Command × Bool × Reader) := do
      set { s with job := s.job.skip 0 more.length }
      nextCommand origin fuel { reader with rest := reader.rest ++ more }
    match (Script.nextCommand (readingBudget reader.rest)).run reader with
    | .ok ((command, isEnd), after) =>
      if isEnd && !more.isEmpty then again
      else
        set { s with documents := after.documents, nextLine := after.line }
        if isShown then act (warn (reader.rest.take (reader.rest.length - after.rest.length)))
        return (command, isEnd, after)
    | .error fault =>
      if more.isEmpty then
        if isShown then act (warn (linesUpTo reader.line fault.line reader.rest))
        modify ({ · with line := fault.line })
        fail fault.text
      else again

/-- Searches for the program of a command that will run apart. -/
def searchAhead (command : Command) : Run Unit := do
  match command with
  | .simple _ _ ((.plain name :: []) :: _) _ =>
    if isName name then
      match meaning (← get) true name with
      | .program =>
        let _ ← searched name
      | _ => return ()
  | _ => return ()

def trace (descriptors : List (Nat × ChannelId)) (words : List Octets) : Run Unit := do
  let s ← get
  if s.options.contains 'x' then
    let now := s.job.descriptors
    set { s with job := { s.job with descriptors } }
    act (warn (line ((s.text? "PS4").getD [] ++ spaced words)))
    modify fun s => { s with job := { s.job with descriptors := now } }

/-- Sets the variables before a command. Gives the assignments as texts. -/
def assignAll (substitute : Substitute) (isKept exports : Bool) :
    List Word → Run (List Octets)
  | [] => return []
  | word :: rest => do
    let (name, value) ← expandAssignment substitute word
    unless isKept do keepLocal name
    assignMarked name value (exports || !isKept)
    return (name ++ '=' :: value) :: (← assignAll substitute isKept exports rest)

/-- The texts of the words of a command. Those of a command that sets variables may be
assignments. -/
def expandWords (substitute : Substitute) (before : List Octets) :
    List Word → Run (List Octets)
  | [] => return before
  | word :: rest => do
    let s ← get
    let found := findCommand s before.length { words := before }
    let assigns : Bool :=
      match found.words with
      | [] => false
      | name :: _ =>
        match meaning s found.withFunctions name with
        | .builtin which => which.assigns
        | _ => false
    if assigns && Script.isAssignment word then
      let (name, value) ← expandAssignment substitute word
      expandWords substitute (before ++ [name ++ '=' :: value]) rest
    else expandWords substitute (before ++ (← expandToFields substitute word)) rest

def matchesAny (substitute : Substitute) (text : Octets) : List Word → Run Bool
  | [] => return false
  | word :: rest => do
    let pattern ← expandToField substitute word
    if Pattern.matchesText pattern text then return true else matchesAny substitute text rest

/-- The command of the first clause with a pattern that matches a text. -/
def chosen? (substitute : Substitute) (text : Octets) :
    List (List Word × Command) → Run (Option Command)
  | [] => return none
  | (patterns, body) :: rest => do
    if ← matchesAny substitute text patterns then return some body
    else chosen? substitute text rest

/-- Whether a command does nothing but sleep for some time. -/
def isSleep : Command → Bool
  | .simple _ [] [[.plain name], [.plain time]] [] =>
    name = "sleep" && time.any (fun c => c.isDigit && c != '0')
  | _ => false

/-- The text that commands left in a channel: NULs and the newlines at the end are dropped. -/
def substitutedText (world : World) (id : ChannelId) : Octets :=
  match world.unread id with
  | .ok data => dropEndWhile (· = '\n') (data.filter (· != '\x00'))
  | .error _ => []

mutual

def evaluate (launch : Launcher) : (fuel : Nat) → Manner → Command → Run Unit
  | 0, _, _ => fail "Maximum function recursion depth exceeded"
  | fuel + 1, manner, command => do
    let inner : Manner := { isTested := manner.isTested }
    let tested : Manner := { isTested := true }
    unless (← hasOption 'n') do
      runTraps launch fuel
      match command with
      | .nothing => return ()
      | .simple line assignments words redirections =>
        simple launch fuel manner line assignments words redirections
        runTraps launch fuel
        checkFailure manner
      | .redirected line body redirections =>
        modify ({ · with line })
        let targets ← redirections.mapM (targetOf fun body => substitute launch fuel body)
        let descriptors := (← get).job.descriptors
        ensuring
          (do
            if ← tryLeadAll targets then evaluate launch fuel inner body else conclude 2)
          (modify fun s => { s with job := { s.job with descriptors } })
      | .subshell line body redirections =>
        modify ({ · with line })
        let targets ← redirections.mapM (targetOf fun body => substitute launch fuel body)
        makeRoom
        let s ← get
        let ended ← apart launch fuel s.job.child (do
          leadAll targets
          evaluate launch fuel { manner with isLast := true } body)
        if manner.isLast && !s.hasTraps then
          adopt ended.world
          throw (.gone ended.status)
        else
          conclude (← settle ended)
          heedSignals
          runTraps launch fuel
          checkFailure manner
      | .background line body redirections =>
        modify ({ · with line })
        let targets ← redirections.mapM (targetOf fun body => substitute launch fuel body)
        beside launch fuel 1 (isSleep body) (do
          leadAll targets
          evaluate launch fuel { isLast := true } body)
      | .pipeline parts inBackground =>
        for part in parts do searchAhead part
        if inBackground then
          beside launch fuel parts.length false (do
            pipeline launch fuel { manner with isLast := true } none parts)
        else
          makeRoom
          pipeline launch fuel { manner with isLast := true } none parts
          runTraps launch fuel
          checkFailure manner
      | .andThen first second =>
        evaluate launch fuel tested first
        if (← get).status = 0 then evaluate launch fuel manner second
      | .orElse first second =>
        evaluate launch fuel tested first
        unless (← get).status = 0 do evaluate launch fuel manner second
      | .sequence first second =>
        evaluate launch fuel inner first
        evaluate launch fuel manner second
      | .negation body =>
        evaluate launch fuel tested body
        conclude (if (← get).status = 0 then 1 else 0)
      | .conditional test body otherwise =>
        evaluate launch fuel tested test
        if (← get).status = 0 then evaluate launch fuel manner body
        else if otherwise.isNothing then conclude 0
        else evaluate launch fuel manner otherwise
      | .loop whileFails test body => insideLoop (loop launch fuel inner whileFails test body 0)
      | .forEach line name words body =>
        modify ({ · with line })
        let texts ← words.mapM (expandToFields fun body => substitute launch fuel body)
        insideLoop (forEach launch fuel inner name body 0 texts.flatten)
      | .choice line word clauses =>
        modify ({ · with line })
        let text ← expandToText (fun body => substitute launch fuel body) word
        match ← chosen? (fun body => substitute launch fuel body) text clauses with
        | none => conclude 0
        | some body =>
          if body.isNothing then conclude 0 else evaluate launch fuel manner body
      | .define name _ body =>
        modify fun s =>
          { s with functions := (name, body) :: s.functions.filter (·.1 != name), status := 0 }
    runTraps launch fuel

/-- Runs the commands that signals have called. -/
def runTraps (launch : Launcher) : (fuel : Nat) → Run Unit
  | 0 => return ()
  | fuel + 1 => do
    let s ← get
    match s.pending with
    | [] => return ()
    | signal :: rest =>
      set { s.withPending rest with kept := some (s.kept.getD s.status) }
      match s.traps.lookup signal with
      | some action =>
        let _ ← runText launch fuel {} action
        modify fun now => { now with status := s.status, kept := s.kept }
        runTraps launch fuel
      | none => runTraps launch fuel

/-- Runs turns of a loop as long as its test says. -/
def loop (launch : Launcher) : (fuel : Nat) → Manner → (whileFails : Bool) →
    (test body : Command) → (status : Nat) → Run Unit
  | 0, _, _, _, _, _ => fail "Maximum function recursion depth exceeded"
  | fuel + 1, manner, whileFails, test, body, status => do
    if ← turn (evaluate launch fuel { isTested := true } test) then
      if ((← get).status = 0) != whileFails then
        if ← turn (evaluate launch fuel manner body) then
          loop launch fuel manner whileFails test body (← get).status
      else conclude status
    else conclude status

def forEach (launch : Launcher) : (fuel : Nat) → Manner → (name : Octets) → (body : Command) →
    (status : Nat) → List Octets → Run Unit
  | 0, _, _, _, _, _ => fail "Maximum function recursion depth exceeded"
  | _, _, _, _, status, [] => conclude status
  | fuel + 1, manner, name, body, _, text :: rest => do
    assign name text
    if ← turn (evaluate launch fuel manner body) then
      forEach launch fuel manner name body (← get).status rest

/-- Runs something as another process, and tells how that ended. -/
def apart (launch : Launcher) : (fuel : Nat) → Job → Run Unit → Run Ended
  | 0, _, _ => fail "Maximum function recursion depth exceeded"
  | fuel + 1, job, action => do
    let s ← get
    set (s.apart job)
    let status ← finish launch fuel (← observed action)
    let world := (← get).job.world
    set s
    return ⟨world, status⟩

/-- Runs something that has some parts beside the script, to its end if it does not sleep. It has no
input. -/
def beside (launch : Launcher) : (fuel : Nat) → (parts : Nat) → (sleeps : Bool) → Run Unit →
    Run Unit
  | 0, _, _, _ => fail "Maximum function recursion depth exceeded"
  | fuel + 1, parts, sleeps, action => do
    let s ← get
    let (world, id) := s.job.world.addChannel .null
    let job := ({ s.job with world }.child).lead 0 (some id)
    let ended ← apart launch fuel { job with ignored := 2 :: 3 :: job.ignored } action
    adopt ended.world
    modify fun s =>
      let companion : Companion := { pid := job.pid, status := ended.status, parts, sleeps }
      { s with beside := placed companion s.beside, lastBeside := some job.pid, status := 0 }
    heedSignals

/-- What becomes of a process whose commands have come to their end: the command for the end is
run. -/
def finish (launch : Launcher) : (fuel : Nat) → Except Interrupt Unit → Run WaitStatus
  | 0, _ => return .exited 2
  | fuel + 1, result => do
    match result with
    | .error (.gone status) => return status
    | .error (.leave code) | .error (.leaveFunction code) => conclude code
    | _ => pure ()
    let s ← get
    match s.traps.lookup 0 with
    | none | some [] => return .exited s.status
    | some action =>
      setTrap 0 none
      modify ({ · with kept := some s.status })
      match ← observed (runText launch fuel {} action) with
      | .error (.gone status) => return status
      | .error (.leave code) => return .exited code
      | _ => return .exited s.status

def substitute (launch : Launcher) : (fuel : Nat) → Command → Run Octets
  | 0, _ => fail "Maximum function recursion depth exceeded"
  | fuel + 1, body => do
    makeRoom
    let s ← get
    let (world, id) := s.job.world.addChannel (.pipe [])
    let job := ({ s.job with world }.child).lead 1 (some id)
    let ended ← apart launch fuel job (evaluate launch fuel { isLast := true } body)
    let code ← settle ended
    heedSignals
    modify ({ · with substituted := code })
    return substitutedText ended.world id

/-- Runs commands, each with the output of the one before as its input. -/
def pipeline (launch : Launcher) : (fuel : Nat) → Manner → (input : Option ChannelId) →
    List Command → Run Unit
  | 0, _, _, _ => fail "Maximum function recursion depth exceeded"
  | _, _, _, [] => return ()
  | fuel + 1, manner, input, part :: rest => do
    let s ← get
    let reading : Job :=
      match input with
      | some id => s.job.lead 0 (some id)
      | none => s.job
    if rest.isEmpty then
      let ended ← apart launch fuel reading.child (evaluate launch fuel manner part)
      conclude (← settle ended)
      heedSignals
    else
      let (world, id) := s.job.world.addChannel (.pipe [])
      let job := ({ reading with world }.child).lead 1 (some id)
      let ended ← apart launch fuel job (evaluate launch fuel manner part)
      let _ ← settle ended
      pipeline launch fuel manner (some id) rest

/-- Runs a simple command: its words are expanded, its descriptors led, its variables set. -/
def simple (launch : Launcher) : (fuel : Nat) → Manner → (line : Nat) →
    (assignments words : List Word) → List Redirection → Run Unit
  | 0, _, _, _, _, _ => fail "Maximum function recursion depth exceeded"
  | fuel + 1, manner, line, assignments, words, redirections => do
    let substitute : Substitute := fun body => substitute launch fuel body
    modify ({ · with line, substituted := 0 })
    let fields ← expandWords substitute [] words
    let s ← get
    let found := findCommand s fields.length { words := fields }
    let isSpecial : Bool :=
      match fields with
      | [] => false
      | name :: _ =>
        match meaning s true name with
        | .builtin which => which.isSpecial
        | _ => false
    let isKept := isSpecial || found.words.isEmpty
    let targets ← redirections.mapM (targetOf substitute)
    let descriptors := (← get).job.descriptors
    let restore : Run Unit := modify fun s => { s with job := { s.job with descriptors } }
    if ← tryLeadAll targets then
      let isExec : Bool := found.words.head? = some "exec"
      let action : Run Unit := do
        let exports := isExec && found.words.length != 1
        let set_ ← assignAll substitute isKept exports assignments
        trace descriptors (set_ ++ fields)
        perform launch fuel manner isSpecial found
      let framed : Run Unit :=
        if isKept then action
        else do
          openScope
          ensuring action closeScope
      if isExec then framed else ensuring framed restore
    else
      restore
      conclude 2
      if isSpecial then throw .error

/-- Carries out a command whose words have been expanded. -/
def perform (launch : Launcher) : (fuel : Nat) → Manner → (isSpecial : Bool) → Found → Run Unit
  | 0, _, _, _ => fail "Maximum function recursion depth exceeded"
  | fuel + 1, manner, isSpecial, found => do
    match found.words with
    | [] => conclude (← get).substituted
    | name :: args =>
      match meaning (← get) found.withFunctions name with
      | .function body => callFunction launch fuel { isTested := manner.isTested } body args
      | .program => runProgram launch manner found.search name found.words
      | .builtin which =>
        let speaker := (← get).speaker
        modify fun s =>
          { s with speaker := some name, job := { s.job with writeFault := none } }
        let result ← observed (do
          let status ← carryOut launch fuel manner which.deed args
          let s ← get
          match s.job.writeFault with
          | some _ =>
            complain (name ++ ": I/O error")
            conclude (status ||| 1)
          | none => conclude status)
        modify fun s => { s with speaker, job := { s.job with writeFault := none } }
        match result with
        | .ok () => return ()
        | .error .error => if isSpecial then throw .error
        | .error interrupt => throw interrupt

/-- Does what a command of the script itself does. -/
def carryOut (launch : Launcher) : (fuel : Nat) → Manner → Deed → List Octets → Run Nat
  | 0, _, _, _ => fail "Maximum function recursion depth exceeded"
  | fuel + 1, manner, deed, args => do
    match deed with
    | .act perform => perform args
    | .find => describeCommand args
    | .describe => describeAll args
    | .track => track args
    | .replace => becomeProgram launch args
    | .evaluate =>
      let isAny ← runText launch fuel { isTested := manner.isTested } (spaced args)
      let s ← get
      return if isAny then s.status else 0
    | .include_ =>
      let (_, operands) ← optionsOf "" args
      match operands with
      | [] => return 0
      | name :: _ =>
        let path ← includedFile name
        let text ← includedText path
        modify ({ · with speaker := some path })
        let nextLine := (← get).nextLine
        let isAny ← commands launch fuel {} .file { rest := text }
        modify ({ · with nextLine })
        let s ← get
        return if isAny then s.status else 0

def callFunction (launch : Launcher) : (fuel : Nat) → Manner → Command → List Octets → Run Unit
  | 0, _, _, _ => fail "Maximum function recursion depth exceeded"
  | fuel + 1, manner, body, args => do
    let before ← get
    set { before with arguments := args, loops := 0, functionDepth := before.functionDepth + 1 }
    let result ← observed (evaluate launch fuel manner body)
    modify fun s =>
      { s with
        arguments := before.arguments
        loops := before.loops
        functionDepth := before.functionDepth }
    match result with
    | .ok () => return ()
    | .error (.leaveFunction status) => conclude status
    | .error interrupt => throw interrupt

/-- Runs the commands of a text. Says whether there were any. -/
def runText (launch : Launcher) : (fuel : Nat) → Manner → Octets → Run Bool
  | 0, _, _ => fail "Maximum function recursion depth exceeded"
  | fuel + 1, manner, text => do
    let nextLine := (← get).nextLine
    ensuring (runFrom launch fuel manner .text { rest := text }) (modify ({ · with nextLine }))

/-- Runs commands one after the other as they are read. Says whether there were any. -/
def runFrom (launch : Launcher) : (fuel : Nat) → Manner → Origin → Reader → Run Bool
  | 0, _, _, _ => fail "Maximum function recursion depth exceeded"
  | fuel + 1, manner, origin, reader => do
    match ← nextCommand origin fuel reader with
    | (none, _, _) => return false
    | (some command, isEnd, reader) =>
      evaluate launch fuel { manner with isLast := manner.isLast && isEnd } command
      let isMore ← runFrom launch fuel manner origin reader
      return isMore || !command.isNothing

/-- Runs commands that may be left as a function is. Says whether there were any. -/
def commands (launch : Launcher) : (fuel : Nat) → Manner → Origin → Reader → Run Bool
  | 0, _, _, _ => fail "Maximum function recursion depth exceeded"
  | fuel + 1, manner, origin, reader => do
    match ← observed (runFrom launch fuel manner origin reader) with
    | .ok isAny => return isAny
    | .error (.leaveFunction status) =>
      conclude status
      return true
    | .error interrupt => throw interrupt

end

end LineShell.Machine.Interpreter
