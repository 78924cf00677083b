import LineShell.Machine.PathSearch
import LineShell.Machine.Tools.Names

/-!
# Other programs

Programs that start other programs, and those that tell of users or take time.
-/

namespace LineShell.Machine.Tools

/-- Starts the program of a name in a job, as it would be called from outside. -/
def startNamed (launch : Launcher) (job : Job) (argv : List Octets) : Except IoError Ended :=
  job.attemptAt (fun path => startFile launch job path argv) (argv.headD [])

/-- Prints the names of those who are logged in: nobody is. -/
def who (_ : List Octets) : Act Nat := return 0

/-- The words of a text that becomes arguments: quotes and backslashes keep blanks. -/
def argumentWords : (fuel : Nat) → (current : Option Octets) → Octets → Except Octets (List Octets)
  | 0, current, _ => .ok current.toList
  | fuel + 1, current, text =>
    let soFar := current.getD []
    match text with
    | [] => .ok current.toList
    | '\\' :: c :: rest => argumentWords fuel (some (soFar ++ [c])) rest
    | c :: rest =>
      if c = '\'' || c = '"' then
        let inside := rest.takeWhile fun d => d != c && d != '\n'
        match rest.drop inside.length with
        | d :: rest =>
          if d = c then argumentWords fuel (some (soFar ++ inside)) rest
          else .error (unmatched c)
        | [] => .error (unmatched c)
      else if isWhiteByte c then do
        return current.toList ++ (← argumentWords fuel none rest)
      else argumentWords fuel (some (soFar ++ [c])) rest
where
  unmatched (c : Char) : Octets :=
    "unmatched " ++ (if c = '"' then "double" else "single" : Octets) ++
      " quote; by default quotes are special to xargs unless you use the -0 option"

def replaced (mark by_ : Octets) : (fuel : Nat) → Octets → Octets
  | 0, text => text
  | fuel + 1, text =>
    if mark.isEmpty then text
    else if mark.isPrefixOf text then by_ ++ replaced mark by_ fuel (text.drop mark.length)
    else
      match text with
      | c :: rest => c :: replaced mark by_ fuel rest
      | [] => []

def batches {α : Type} (size : Nat) : (fuel : Nat) → List α → List (List α)
  | 0, _ => []
  | fuel + 1, items =>
    if items.isEmpty then []
    else if size = 0 then [items]
    else items.take size :: batches size fuel (items.drop size)

/-- Runs commands one after the other. A command that cannot be started or is killed ends them. -/
def runEach (launch : Launcher) : (code : Nat) → List (List Octets) → Act Nat
  | code, [] => return code
  | code, argv :: rest => do
    let job ← get
    match startNamed launch job.child argv with
    | .error e =>
      complainOf (argv.headD []) e
      return if e = .noSuchFile then 127 else 126
    | .ok ended =>
      modify ({ · with world := ended.world })
      match ended.status.exitCode?, ended.status.signal? with
      | some 0, _ => runEach launch code rest
      | some 255, _ =>
        complain (argv.headD [] ++ ": exited with status 255; aborting")
        return 124
      | some _, _ => runEach launch 123 rest
      | none, some signal =>
        complain (argv.headD [] ++ ": terminated by signal " ++ Machine.decimal signal)
        return 125
      | none, none => return 123

/-- Starts a program with the words of the input as arguments. -/
def xargs (launch : Launcher) (args : List Octets) : Act Nat := do
  let choices : List Choice :=
    [⟨'0', "null", .nothing⟩, ⟨'n', "max-args", .value⟩, ⟨'I', "", .value⟩, ⟨'i', "replace", .maybe⟩,
      ⟨'r', "no-run-if-empty", .nothing⟩, ⟨'t', "verbose", .nothing⟩, ⟨'L', "max-lines", .value⟩,
      ⟨'d', "delimiter", .value⟩]
  match readFrom choices true (args.length + 1) args with
  | .error text => misuse 1 text
  | .ok given =>
    match ← readRest 0 with
    | .error e =>
      complainOf "read error" e
      return 1
    | .ok data =>
      let command : List Octets := if given.operands.isEmpty then ["echo"] else given.operands
      let mark :=
        match given.last? ["I", "i"] with
        | some "I" => given.value? "I"
        | some _ => some ((given.value? "i").getD ['\x7b', '\x7d'])
        | none => none
      let pieces (separator : Char) : List Octets :=
        let parts := data.splitOn separator
        if parts.getLast? = some [] then parts.dropLast else parts
      let words : Except Octets (List Octets) :=
        if given.has "0" then .ok (pieces '\x00')
        else if given.has "d" then .ok (pieces (((given.value? "d").bind List.head?).getD '\n'))
        else if mark.isSome then
          .ok (((pieces '\n').map (·.dropWhile fun c => c = ' ' || c = '\t')).filter
            fun text => !text.isEmpty)
        else argumentWords (data.length + 1) none data
      match words with
      | .error text =>
        complain text
        return 1
      | .ok words =>
        let calls :=
          match mark with
          | some mark =>
            words.map fun word => command.map fun text => replaced mark word (text.length + 1) text
          | none =>
            let size := ((given.value? "n").bind number?).getD 0
            if words.isEmpty then (if given.has "r" then [] else [command])
            else (batches size (words.length + 1) words).map (command ++ ·)
        if given.has "t" then for argv in calls do warn (line (spaced argv))
        modify fun job =>
          let (world, id) := job.world.addChannel .null
          ({ job with world }).lead 0 (some id)
        runEach launch 0 calls

end LineShell.Machine.Tools
