import LineShell.Machine.Tools.Names

/-!
# Directories and modes

Programs that make and remove directories, and that change the modes of files.
-/

namespace LineShell.Machine.Tools

def report (isVerbose : Bool) (text : Octets) : Act Unit := do if isVerbose then say (line text)

def reportMade (isVerbose : Bool) (path : Path) : Act Unit := do
  let job ← get
  report isVerbose (job.name ++ ": created directory " ++ quotedName path)

def refuseDirectory (path : Path) (e : IoError) : Act Nat := do
  complainOf ("cannot create directory " ++ quotedWord path) e
  return 1

/-- Makes one directory. One that is there already is fine if told so. -/
def makeOne (mode : Mode) (isVerbose allowsOld : Bool) (path : Path) : Act Nat := do
  let job ← get
  match ← changeFiles (·.makeDirectory job.dir path mode) with
  | .ok () =>
    reportMade isVerbose path
    return 0
  | .error e =>
    if !allowsOld || e = .noSuchFile then refuseDirectory path e
    else
      match job.files.resolve true job.dir path with
      | .ok id => if job.files.isDirectory id then return 0 else refuseDirectory path e
      | .error found =>
        if e != .fileExists || found = .noSuchFile || found = .notADirectory then
          refuseDirectory path e
        else
          complainOf ("cannot stat " ++ quotedWord path) found
          return 1

/-- The beginnings of a path that end with each of its names, without the last. -/
def beginnings (path : Path) : List Path :=
  let ends := (List.range path.length).filter fun n =>
    0 < n && path[n]? = some '/' && path[n - 1]? != some '/'
  let bare := (withoutTrailingSlashes path).length
  (ends.filter (· < bare)).map path.take

/-- Makes a directory and those above it that are missing. -/
def makeWithParents (mode : Mode) (isVerbose : Bool) (path : Path) : Act Nat := do
  let rec above : List Path → Act (Option (Path × IoError))
    | [] => return none
    | path :: rest => do
      let job ← get
      let mode := Mode.newDirectory.masked job.umask ||| 0o300
      let made ←
        if ((pathParts path).getLast?) = some ['.', '.'] then pure (.ok ())
        else changeFiles (·.makeDirectory job.dir path mode)
      if made.isOk then reportMade isVerbose path
      let job ← get
      match job.files.enter job.dir path, made with
      | .ok _, _ => above rest
      | .error .noSuchFile, .error e | .error e, _ => return some (path, e)
  match ← above (beginnings path) with
  | some (path, e) => refuseDirectory path e
  | none => makeOne mode isVerbose true path

def mkdir (args : List Octets) : Act Nat :=
  withOptions
    [⟨'p', "parents", .nothing⟩, ⟨'m', "mode", .value⟩, ⟨'v', "verbose", .nothing⟩,
      ⟨'Z', "context", .maybe⟩] 1 args fun given => do
    let job ← get
    let plain := Mode.newDirectory.masked job.umask
    let mode : Option Mode :=
      match given.value? "m" with
      | none => some plain
      | some text => (Mode.changes? text).map fun changes =>
        Mode.change job.umask true changes Mode.newDirectory
    if given.operands.isEmpty then misuse 1 "missing operand"
    else
      match mode with
      | none =>
        complain ("invalid mode " ++ quotedWord ((given.value? "m").getD []))
        return 1
      | some mode =>
        forEach given.operands fun path =>
          if given.has "p" then makeWithParents mode (given.has "v") path
          else makeOne mode (given.has "v") false path

/-- Whether a path is that of a link with slashes after it, through which nothing is removed. What the
link leads to is a directory, or cannot be told. -/
def isLinkWithSlash (job : Job) (path : Path) : Bool :=
  endsWithSlash path && job.files.isSymlinkAt job.dir (withoutTrailingSlashes path) &&
    match job.files.resolve true job.dir path with
    | .ok id => job.files.isDirectory id
    | .error e => e != .notADirectory

def complainOfRemoval (path : Path) (isParent : Bool) (e : IoError) : Act Unit := do
  let job ← get
  if isParent then complainOf ("failed to remove directory " ++ quotedName path) e
  else if e = .notADirectory && isLinkWithSlash job path then
    complain ("failed to remove " ++ quotedName path ++ ": Symbolic link not followed")
  else complainOf ("failed to remove " ++ quotedName path) e

def removeEmpty (isVerbose ignoresFull isParent : Bool) : List Path → Act Nat
  | [] => return 0
  | path :: rest => do
    let job ← get
    report isVerbose (job.name ++ ": removing directory, " ++ quotedName path)
    match ← changeFiles (·.removeDirectory job.dir path) with
    | .ok () => removeEmpty isVerbose ignoresFull true rest
    | .error e =>
      if ignoresFull && e = .notEmpty then return 0
      else
        complainOfRemoval path isParent e
        return 1

def rmdir (args : List Octets) : Act Nat :=
  withOptions
    [⟨'p', "parents", .nothing⟩, ⟨' ', "path", .nothing⟩, ⟨'v', "verbose", .nothing⟩,
      ⟨' ', "ignore-fail-on-non-empty", .nothing⟩] 1 args fun given =>
    if given.operands.isEmpty then misuse 1 "missing operand"
    else
      forEach given.operands fun path =>
        let above := if given.has "p" || given.has "path" then (beginnings path).reverse else []
        removeEmpty (given.has "v") (given.has "ignore-fail-on-non-empty") false (path :: above)

structure ModeChange where
  changes : List Mode.Change
  /-- The mode was written like an option, so that the mask may surprise. -/
  mayDeceive : Bool
  isQuiet : Bool
  reportsAll : Bool
  reportsChanges : Bool

def changeMode (m : ModeChange) (path : Path) (id : NodeId) : Act Nat := do
  let job ← get
  let isDirectory := job.files.isDirectory id
  let before := job.files.mode id
  let after := Mode.change job.umask isDirectory m.changes before
  set (job.withFiles (job.files.setMode id after))
  if before != after then
    report (m.reportsAll || m.reportsChanges)
      ("mode of " ++ quotedName path ++ " changed from " ++ before.shown ++ " to " ++ after.shown)
  else report m.reportsAll ("mode of " ++ quotedName path ++ " retained as " ++ before.shown)
  let expected := Mode.change 0 isDirectory m.changes before
  if m.mayDeceive && after &&& expected.without &&& Mode.everyBit ≠ 0 then
    complain (shownName path ++ ": new permissions are " ++ after.letters ++ ", not " ++
      expected.letters)
    return 1
  else return 0

def changeModesBelow (m : ModeChange) : (depth : Nat) → Path → NodeId → Act Nat
  | 0, _, _ => return 0
  | depth + 1, path, id => do
    let job ← get
    if !job.files.isDirectory id then return 0
    else if !(job.files.mode id).mayRead then
      unless m.isQuiet do
        complainOf ("cannot read directory " ++ quotedName path) .permissionDenied
      return 1
    else
      let passes := (job.files.mode id).mayExecute
      let mut code := 0
      for (name, child) in job.files.entries id do
        let path := pathIn path name
        if !passes then
          unless m.isQuiet do complainOf ("cannot access " ++ quotedName path) .permissionDenied
          code := 1
        else if job.files.kindOf child != .symlink then
          let own ← changeMode m path child
          let below ← changeModesBelow m depth path child
          code := max code (max own below)
      return code

/-- Changes the mode of the file at a path, and of what is below it if told to. -/
def changeModeAt (m : ModeChange) (isRecursive : Bool) (path : Path) : Act Nat := do
  let job ← get
  match job.files.resolve true job.dir path with
  | .error e =>
    unless m.isQuiet do
      if e = .noSuchFile && job.files.existsAt false job.dir path then
        complain ("cannot operate on dangling symlink " ++ quotedName path)
      else complainOf ("cannot access " ++ quotedName path) e
    return 1
  | .ok id =>
    let own ← changeMode m path id
    if isRecursive then
      return max own (← changeModesBelow m job.files.nodes.size path id)
    else return own

/-- The letters that start a mode which looks like an option. -/
def modeLetters : List Char := "rwxXstugoa,+=01234567".toList

/-- Changes the modes of files. -/
def chmod (args : List Octets) : Act Nat :=
  let choices : List Choice :=
    [⟨'R', "recursive", .nothing⟩, ⟨'c', "changes", .nothing⟩, ⟨'f', "quiet", .nothing⟩,
      ⟨'f', "silent", .nothing⟩, ⟨'v', "verbose", .nothing⟩, ⟨' ', "reference", .value⟩,
      ⟨' ', "preserve-root", .nothing⟩, ⟨' ', "no-preserve-root", .nothing⟩]
  withOptions (choices ++ modeLetters.map fun letter => ⟨letter, "", .maybe⟩) 1 args
    fun given => do
    let job ← get
    let flags := given.set_.filterMap fun (key, value) =>
      match key.toList with
      | [letter] =>
        if modeLetters.contains letter then some ('-' :: letter :: value.getD []) else none
      | _ => none
    let reference := given.value? "reference"
    let (mode, operands) : Option Octets × List Octets :=
      if !flags.isEmpty then (some (joined [','] flags), given.operands)
      else if reference.isSome then (none, given.operands)
      else (given.operands.head?, given.operands.tail)
    let apply (changes : List Mode.Change) : Act Nat :=
      let m : ModeChange := {
        changes, mayDeceive := !flags.isEmpty, isQuiet := given.has "f", reportsAll := given.has "v"
        reportsChanges := given.has "c" }
      forEach operands (changeModeAt m (given.has "R"))
    if operands.isEmpty then
      match flags, given.operands with
      | [], [mode] =>
        if reference.isSome then misuse 1 "missing operand"
        else misuse 1 ("missing operand after " ++ quotedWord mode)
      | [], _ => misuse 1 "missing operand"
      | _ :: _, _ => misuse 1 ("missing operand after " ++ quotedWord (mode.getD []))
    else
      match reference with
      | some file =>
        match job.files.resolve true job.dir file with
        | .ok id => apply [⟨'=', Mode.everyBit, .bits (job.files.mode id) false⟩]
        | .error e =>
          complainOf ("failed to get attributes of " ++ quotedName file) e
          return 1
      | none =>
        match Mode.changes? (mode.getD []) with
        | some changes => apply changes
        | none => misuse 1 ("invalid mode: " ++ quotedWord (mode.getD []))

end LineShell.Machine.Tools
