import LineShell.Machine.Tools.Placement

/-!
# Making links

A file gets one more name, or a symbolic link to it. What has the name already stays unless the call
says that it may go.
-/

namespace LineShell.Machine.Tools

structure Linking where
  isSymbolic : Bool
  isRelative : Bool := false
  follows : Bool := false
  removesOld : Bool := false
  asks : Bool := false
  isVerbose : Bool := false
  backups : Backups := ⟨.nothing, []⟩

/-- A relative path from one directory to a path, both given by their names from the root. -/
def relativePath (dir path : List Path) : Path :=
  let rec go : List Path → List Path → List Path
    | x :: xs, y :: ys => if x = y then go xs ys else (x :: xs).map (fun _ => ['.', '.']) ++ y :: ys
    | xs, ys => xs.map (fun _ => ['.', '.']) ++ ys
  let names := go dir path
  if names.isEmpty then ['.'] else joined ['/'] names

def relativeSource (job : Job) (place : Placing) : Path :=
  let names (path : Path) := (path.splitOn '/').filter (!·.isEmpty)
  match canonicalPath job .none (directoryName place.target), canonicalPath job .none place.source with
  | .ok dir, .ok source => relativePath (names dir) (names source)
  | _, _ => place.source

namespace Linking

def fail (l : Linking) (place : Placing) (e : IoError) : Act Nat :=
  let target := quotedName place.target
  let source := quotedName place.source
  let what : Octets :=
    if l.isSymbolic then
      if e != .nameTooLong && !place.source.isEmpty then
        "failed to create symbolic link " ++ target
      else "failed to create symbolic link " ++ target ++ " -> " ++ source
    else if e = .fileExists then "failed to create hard link " ++ target
    else "failed to create hard link " ++ target ++ " => " ++ source
  refuseOf what e

def make (l : Linking) (place : Placing) (dir : NodeId) (files : FileTree) :
    Except IoError FileTree :=
  if l.isSymbolic then files.makeSymlink dir place.target place.source
  else
    match files.resolve l.follows dir place.source with
    | .error e => .error e
    | .ok id => if files.isDirectory id then .error (.os 1) else files.link dir id place.target

def makeOver (l : Linking) (place : Placing) (dir : NodeId) (files : FileTree) :
    Except IoError FileTree :=
  match l.make place dir files with
  | .error .fileExists =>
    match files.removeFile dir place.target with
    | .error e => .error e
    | .ok files => l.make place dir files
  | result => result

/-- Keeps the files of a made link in mind and says what was done. -/
def finish (l : Linking) (place : Placing) (kept : Option Path) (files : FileTree) :
    StateT Placed Act Nat := do
  let job ← (get : Act Job)
  (MonadState.set (job.withFiles files) : Act Unit)
  match files.resolve false job.dir place.target with
  | .ok id => if !l.isSymbolic then modify ((place.target, id) :: ·)
  | .error _ => pure ()
  let before : Octets :=
    match kept with
    | some path => quotedName path ++ " ~ "
    | none => []
  (report l.isVerbose (before ++ quotedName place.target ++
    (if l.isSymbolic then " -> " else " => ") ++ quotedName place.source) : Act Unit)
  return 0

/-- Whether removing a target would remove the source of a link. -/
def losesSource (l : Linking) (job : Job) (place : Placing) (old : NodeId) : Bool :=
  let source := (job.files.resolve (l.isSymbolic || l.follows) job.dir place.source).toOption
  (if l.backups.kind = .nothing then l.removesOld else !l.isSymbolic) && source = some old &&
    (job.files.nameCount old = 1 || job.files.isSameEntry job.dir place.source place.target)

/-- Makes a link where something has the name already. -/
def replace (l : Linking) (place : Placing) : StateT Placed Act Nat := do
  if !(← (goesOn l.asks ("replace " ++ quotedName place.target) : Act Bool)) then return 0
  else
    let job ← (get : Act Job)
    let kept : Option Path :=
      if l.backups.kind = .nothing then none
      else some (l.backups.path job.files job.dir place.target)
    let aside : Except IoError FileTree :=
      match kept with
      | none => .ok job.files
      | some kept => job.files.rename job.dir place.target kept
    match aside with
    | .error e => (refuseOf ("cannot backup " ++ quotedName place.target) e : Act Nat)
    | .ok files =>
      match l.makeOver place job.dir files with
      | .error e => (l.fail place e : Act Nat)
      | .ok files => l.finish place kept files

/-- Gives a source one more name, or a link to it. -/
def one (l : Linking) (place : Placing) : StateT Placed Act Nat := do
  let job ← (get : Act Job)
  let attempt : Option (Except IoError FileTree) :=
    if l.isSymbolic && l.isRelative then none else some (l.make place job.dir job.files)
  match attempt, job.files.resolve l.follows job.dir place.source with
  | some (.ok files), _ => l.finish place none files
  | attempt, source =>
    let fault : Option IoError :=
      match attempt with
      | some (.error e) => some e
      | _ => none
    match l.isSymbolic, source with
    | false, .error e => (refuseOf ("failed to access " ++ quotedName place.source) e : Act Nat)
    | isSymbolic, source =>
      if !isSymbolic && (source.map job.files.isDirectory matches .ok true) then
        (refuse (shownName place.source ++ ": hard link not allowed for directory") : Act Nat)
      else
        let place : Placing :=
          if isSymbolic && l.isRelative then { place with source := relativeSource job place }
          else place
        let plain : StateT Placed Act Nat :=
          match fault, l.make place job.dir job.files with
          | some e, _ | none, .error e => (l.fail place e : Act Nat)
          | none, .ok files => l.finish place none files
        let replaces := l.removesOld || l.asks || l.backups.kind != .nothing
        match replaces, job.files.resolve false job.dir place.target with
        | false, _ | true, .error .noSuchFile => plain
        | true, .error e => (refuseOf ("failed to access " ++ quotedName place.target) e : Act Nat)
        | true, .ok old =>
          if job.files.isDirectory old then
            (refuse (shownName place.target ++ ": cannot overwrite directory") : Act Nat)
          else if !isSymbolic && l.removesOld && l.backups.kind != .numbered &&
              (← get).contains (place.target, old) then (refuseAgain place : Act Nat)
          else if l.losesSource job place old then (refuseSame place : Act Nat)
          else if fault.all (· = .fileExists) then l.replace place
          else plain

end Linking

def ln (args : List Octets) : Act Nat :=
  withOptions
    [⟨' ', "backup", .maybe⟩, ⟨'d', "directory", .nothing⟩, ⟨'n', "no-dereference", .nothing⟩,
      ⟨'T', "no-target-directory", .nothing⟩, ⟨'f', "force", .nothing⟩,
      ⟨'i', "interactive", .nothing⟩, ⟨'S', "suffix", .value⟩, ⟨'t', "target-directory", .value⟩,
      ⟨'L', "logical", .nothing⟩, ⟨'P', "physical", .nothing⟩, ⟨'r', "relative", .nothing⟩,
      ⟨'s', "symbolic", .nothing⟩, ⟨'v', "verbose", .nothing⟩, ⟨'b', "", .nothing⟩,
      ⟨'F', "", .nothing⟩] 1 args fun given => do
    let job ← get
    let isDirectory (path : Path) : Except IoError Unit :=
      if given.has "n" && job.files.isSymlinkAt job.dir path then .error .notADirectory
      else asDirectory job path
    match Backups.ofGiven given job, (given.value? "t").map fun dir =>
        (dir, job.files.resolve true job.dir dir) with
    | .error refusal, _ => refusal.answer
    | .ok _, some (dir, .error e) => refuseOf ("failed to access " ++ quotedName dir) e
    | .ok backups, target =>
      let isNoDirectory : Bool :=
        match target with
        | some (_, .ok id) => !job.files.isDirectory id
        | _ => false
      if isNoDirectory then
        refuse ("target " ++ quotedName ((given.value? "t").getD []) ++ " is not a directory")
      else if target.isSome && given.has "T" then
        refuse "cannot combine --target-directory and --no-target-directory"
      else if given.has "r" && !given.has "s" then
        refuse "cannot do --relative without --symbolic"
      else
        let mode := given.last? ["f", "i"]
        let l : Linking := {
          isSymbolic := given.has "s", isRelative := given.has "r"
          follows := given.last? ["L", "P"] = some "L"
          removesOld := mode = some "f", asks := mode = some "i"
          isVerbose := given.has "v", backups }
        placeEach given { isDirectory, needsTwo := false } [] l.one

end LineShell.Machine.Tools
