import LineShell.Machine.Interpreter.Options

/-!
# The directory of a script

A script remembers the name that its directory was reached by, and takes the last part off again for
two dots, whatever links there were on the way.
-/

namespace LineShell.Machine.Interpreter

/-- Takes the last part off a name that is held in reverse, down to a least length. -/
def dropLastPart (least : Nat) : Octets → Octets
  | [] => []
  | c :: rest =>
    if (c :: rest).length ≤ least then c :: rest
    else if rest.head? = some '/' then rest
    else dropLastPart least rest

def followedName (named path : Path) : Path :=
  let isDouble (path : Path) : Bool := path.take 2 = ['/', '/'] && path[2]? != some '/'
  let (start, least) : Path × Nat :=
    if isAbsolute path then
      if isDouble path then (['/', '/'], 2) else (['/'], 1)
    else
      let start := if endsWithSlash named then named else named ++ ['/']
      (start, if 1 < start.length && start[1]? = some '/' then 2 else 1)
  let parts := (path.splitOn '/').filter (!·.isEmpty)
  let reversed := parts.foldl
    (fun name part =>
      if part = ['.'] then name
      else if part = ['.', '.'] then dropLastPart least name
      else '/' :: part.reverse ++ name)
    start.reverse
  (if least < reversed.length then reversed.drop 1 else reversed).reverse

/-- The name of the directory without links. What keeps it from being told is complained of. -/
def physicalName : Run Path := do
  let s ← get
  match s.job.files.pathOf s.job.dir with
  | some path => return path
  | none =>
    complain ("getcwd() failed: " ++ Octets.ofString IoError.noSuchFile.text)
    return []

def rename (name : Path) : Run Unit := do
  modify ({ · with named := name })
  assignMarked "PWD" name true

/-- Names the directory at the start: as it was named before, if that name still leads to it. -/
def nameDirectory : Run Unit := do
  let s ← get
  let before := (s.text? "PWD").filter fun path =>
    isAbsolute path &&
      (s.job.files.resolve true s.job.dir path).toOption = some s.job.dir
  rename (← match before with
    | some path => pure path
    | none => physicalName)

/-- Changes the directory to a path. Says whether that was possible. -/
def moveTo (path : Path) (isPhysical : Bool) : Run Bool := do
  let s ← get
  let followed : Option Path :=
    if isPhysical || (!isAbsolute path && s.named.isEmpty) then none
    else some (followedName s.named path)
  match s.job.files.enter s.job.dir (followed.getD path) with
  | .error _ => return false
  | .ok dir =>
    set { s with job := { s.job with dir } }
    assignMarked "OLDPWD" s.named true
    rename (← match followed with
      | some name => pure name
      | none => physicalName)
    return true

/-- Whether a path says by its start where it is searched. -/
def isRooted (path : Path) : Bool :=
  isAbsolute path || [['.'], ['.', '.']].contains (path.takeWhile (· != '/'))

/-- The directories that a relative path is searched in: the path found, and whether it has to be
shown. -/
def searchedDirectory (s : State) (path : Path) : Option (Path × Bool) :=
  match s.text? "CDPATH" with
  | none => none
  | some search =>
    if isRooted path then none
    else
      (search.splitOn ':').findSome? fun beginning =>
        let found := if beginning.isEmpty then path else beginning ++ '/' :: path
        if s.job.files.isDirectoryAt s.job.dir found then some (found, !beginning.isEmpty) else none

/-- Whether the last of some options asks for names without links. -/
def isPhysical (options : List (Char × Octets)) : Bool :=
  (options.getLast?.map (·.1)) = some 'P'

def cd (args : List Octets) : Run Nat := do
  let (options, operands) ← optionsOf "LP" args
  let s ← get
  let (target, shows) : Path × Bool :=
    match operands with
    | [] => ((s.text? "HOME").getD [], false)
    | ['-'] :: _ => ((s.text? "OLDPWD").getD [], true)
    | path :: _ => (path, false)
  let path := if target.isEmpty then ['.'] else target
  let (path, isFound) := (searchedDirectory s path).getD (path, false)
  if ← moveTo path (isPhysical options) then
    if shows || isFound then say (line (← get).named)
    return 0
  else fail ("can't cd to " ++ target)

def pwd (args : List Octets) : Run Nat := do
  let (options, _) ← optionsOf "LP" args
  if isPhysical options then say (line (← physicalName)) else say (line (← get).named)
  return 0

end LineShell.Machine.Interpreter
