import LineShell.Machine.Tools.Placement

/-!
# Copying files

A file is copied byte by byte into a new file or into one that is there; a directory is made if it is
missing and then filled. A directory that is copied into itself is not copied for ever: the first
directory that a copy makes is not copied again.
-/

namespace LineShell.Machine.Tools

inductive CopyKind where
  | content
  | hardLink
  | symbolicLink
  deriving DecidableEq, Repr

structure Copying where
  kind : CopyKind
  isRecursive : Bool
  /-- Links are followed; those among the operands may be the only ones. -/
  follows : Bool
  followsOperands : Bool
  isForced : Bool
  keepsOld : Bool
  asks : Bool
  keepsModes : Bool
  keepsHardLinks : Bool
  removesFirst : Bool
  isVerbose : Bool
  backups : Backups

/-- What a call has met so far. -/
structure CopyMemory where
  placed : Placed := []
  sources : Placed := []
  directories : List (NodeId × Path) := []

/-- A copy of an operand that is going on. -/
structure CopyCall where
  how : Copying
  whole : Placing

structure Copied where
  code : Nat
  /-- A directory was copied into itself; nothing more of it is copied. -/
  stops : Bool := false

/-- Copies files, with what was met before in mind. -/
abbrev CopyAct := StateT CopyMemory Act

namespace Copying

def job : CopyAct Job := (get : Act Job)

def keep (files : FileTree) : CopyAct Unit := (modify fun job => job.withFiles files : Act Unit)

def fail (text : Octets) : CopyAct Copied := do return { code := ← (refuse text : Act Nat) }

def failOf (what : Octets) (e : IoError) : CopyAct Copied := do
  return { code := ← (refuseOf what e : Act Nat) }

def done : CopyAct Copied := return { code := 0 }

def announce (how : Copying) (place : Placing) (kept : Option Path) : Act Unit :=
  report how.isVerbose (quotedName place.source ++ " -> " ++ quotedName place.target ++
    backupNote kept)

/-- Says that a file was removed to make room. -/
def reportRemoved (how : Copying) (path : Path) : Act Unit :=
  report how.isVerbose ("removed " ++ quotedName path)

/-- The files with the bytes of a file in another, which is made if it is new. -/
def withContent (how : Copying) (job : Job) (id : NodeId) (target : Path) (files : FileTree) :
    Except IoError FileTree :=
  let sourceMode := files.mode id
  let mode := if how.keepsModes then sourceMode else (sourceMode &&& 0o777).masked job.umask
  match files.openForWriting job.dir target mode true with
  | .error e => .error e
  | .ok (files, copy) =>
    let files :=
      match files.kind? id, files.kind? copy with
      | some (.file content), some (.file _) => files.setKind copy (.file content)
      | _, _ => files
    .ok (if how.keepsModes then files.setMode copy sourceMode else files)

def copyContent (how : Copying) (id : NodeId) (place : Placing) (isNew : Bool) : CopyAct Copied := do
  let job ← job
  let put := withContent how job id place.target
  let cannot (e : IoError) : CopyAct Copied :=
    failOf ("cannot create regular file " ++ quotedName place.target) e
  if job.files.kind? id != some .null && !(job.files.mode id).mayRead then
    failOf ("cannot open " ++ quotedName place.source ++ " for reading") .permissionDenied
  else if isNew then
    if job.files.isSymlinkAt job.dir place.target then
      fail ("not writing through dangling symlink " ++ quotedName place.target)
    else
      match put job.files with
      | .ok files =>
        keep files
        done
      | .error e =>
        cannot (if e = .isADirectory && endsWithSlash place.target then .notADirectory else e)
  else
    match put job.files with
    | .ok files =>
      keep files
      done
    | .error e =>
      if !how.isForced || e = .noSuchFile then cannot e
      else
        match job.files.removeFile job.dir place.target with
        | .error e => failOf ("cannot remove " ++ quotedName place.target) e
        | .ok files =>
          (reportRemoved how place.target : Act Unit)
          match put files with
          | .error e => cannot e
          | .ok files =>
            keep files
            done

/-- The files with a link made, in the place of what is there if that may go. -/
def withLink (replaces : Bool) (dir : NodeId) (target : Path)
    (make : FileTree → Except IoError FileTree) (files : FileTree) : Except IoError FileTree :=
  match make files with
  | .error .fileExists =>
    if !replaces then .error .fileExists
    else
      match files.removeFile dir target with
      | .error e => .error e
      | .ok files => make files
  | result => result

def copyAsSymbolicLink (how : Copying) (place : Placing) : CopyAct Copied := do
  let job ← job
  let isHere := (job.files.resolve true job.dir (directoryName place.target)).toOption.all (· = job.dir)
  if !isAbsolute place.source && !isHere then
    fail (shownName place.target ++
      ": can make relative symbolic links only in current directory")
  else
    match withLink how.isForced job.dir place.target
        (·.makeSymlink job.dir place.target place.source) job.files with
    | .ok files =>
      keep files
      done
    | .error e =>
      failOf ("cannot create symbolic link " ++ quotedName place.target ++ " to " ++
        quotedName place.source) e

def copyAsHardLink (how : Copying) (id : NodeId) (place : Placing) : CopyAct Copied := do
  let job ← job
  match withLink (how.isForced || how.asks) job.dir place.target (·.link job.dir id place.target)
      job.files with
  | .ok files =>
    keep files
    done
  | .error e =>
    failOf ("cannot create hard link " ++ quotedName place.target ++ " to " ++
      quotedName place.source) e

def copyLink (how : Copying) (text : Path) (place : Placing) : CopyAct Copied := do
  let job ← job
  match withLink how.isForced job.dir place.target (·.makeSymlink job.dir place.target text)
      job.files with
  | .ok files =>
    keep files
    done
  | .error e => failOf ("cannot create symbolic link " ++ quotedName place.target) e

/-- Whether a name is that of a directory in itself or of the one above it. -/
def isDots (name : Path) : Bool := name = ['.'] || name = ['.', '.']

/-- What is to be done with the place of a copy. -/
inductive Room where
  /-- There is room, where something may have been put aside. -/
  | free (kept : Option Path)
  | taken
  | answered (result : Copied)

def makeRoom (how : Copying) (isOperand : Bool) (place : Placing) (id old : NodeId) :
    CopyAct Room := do
  let job ← job
  let files := job.files
  let isDirectory := files.isDirectory id
  let hasBackups := how.backups.kind != .nothing
  let answer (copy : CopyAct Copied) : CopyAct Room := do return .answered (← copy)
  let meeting : Meeting := {
    isMove := false
    keepsLinks := !how.follows && !(isOperand && how.followsOperands)
    linksHard := how.kind = .hardLink, linksSymbolic := how.kind = .symbolicLink
    removesFirst := how.removesFirst, hasBackups }
  let found := sameness job meeting place id old
  if found = .same then answer (do return { code := ← (refuseSame place : Act Nat) })
  else if !isDirectory && how.keepsOld then answer done
  else if !(← (goesOn (!isDirectory && how.asks) ("overwrite " ++ quotedName place.target) :
      Act Bool)) then answer done
  else if found = .settled then answer done
  else
    match placingFault? files id old place with
    | some text => answer (fail text)
    | none =>
      if isOperand && !files.isDirectory old && how.backups.kind != .numbered &&
          (← get).placed.contains (place.target, old) then
        answer (do return { code := ← (refuseAgain place : Act Nat) })
      else if files.isDirectory old then return .taken
      else if hasBackups && !(isDots (lastName place.source)) then
        if isOwnBackup job how.backups place then
          answer (fail ("backing up " ++ quotedName place.target ++ " might destroy source;  " ++
            quotedName place.source ++ " not copied"))
        else
          let kept := how.backups.path files job.dir place.target
          match files.rename job.dir place.target kept with
          | .error e => answer (failOf ("cannot backup " ++ quotedName place.target) e)
          | .ok files =>
            keep files
            return .free (some kept)
      else if how.removesFirst || (how.keepsHardLinks && 1 < files.nameCount old) ||
          (meeting.keepsLinks && files.kindOf id = .symlink) then
        match files.removeFile job.dir place.target with
        | .error e => answer (failOf ("cannot remove " ++ quotedName place.target) e)
        | .ok files =>
          keep files
          (reportRemoved how place.target : Act Unit)
          return .free none
      else return .taken

/-- What forbids to copy a directory that was met before. -/
def repeatedDirectory (call : CopyCall) (isOperand : Bool) (place : Placing) (earlier : Path) :
    CopyAct (Option Copied) := do
  let job ← job
  let how := call.how
  if job.files.isSameEntry job.dir place.source earlier then
    let refused ← fail ("cannot copy a directory, " ++ quotedName call.whole.source ++
      ", into itself, " ++ quotedName call.whole.target)
    return some { refused with stops := true }
  else if job.files.isSameEntry job.dir place.target earlier then
    (complain ("warning: source directory " ++ quotedName call.whole.source ++
      " specified more than once") : Act Unit)
    return some { code := 0 }
  else if how.follows || (isOperand && how.followsOperands) then return none
  else
    return some (← fail ("will not create hard link " ++ quotedName place.target ++
      " to directory " ++ quotedName earlier))

/-- How the copy of what is at a path goes on. -/
inductive Course where
  | over (result : Copied)
  | file (id : NodeId) (isNew : Bool) (kept : Option Path)
  | directory (id : NodeId) (isNew : Bool)

/-- Whether a link at the place of an operand was made by the same call. -/
def isThroughNew (how : Copying) (isOperand : Bool) (target : Path) : CopyAct Bool := do
  let job ← job
  let link := (job.files.resolve false job.dir target).toOption.filter fun id =>
    job.files.kindOf id = .symlink
  let memory ← get
  return isOperand && how.backups.kind = .nothing &&
    link.any fun link => memory.placed.contains (target, link)

/-- How the copy of a directory goes on: not if it is in itself or was copied before. -/
def directoryCourse (call : CopyCall) (above : List NodeId) (isOperand : Bool) (place : Placing)
    (id : NodeId) (isNew : Bool) : CopyAct Course := do
  let refused : Option Copied ←
    match (← get).directories.lookup id with
    | some earlier => repeatedDirectory call isOperand place earlier
    | none => do
      if isOperand then
        modify fun m => { m with directories := (id, place.target) :: m.directories }
      pure none
  match refused with
  | some result => return .over result
  | none =>
    if above.contains id then
      return .over (← fail ("cannot copy cyclic symbolic link " ++ quotedName place.source))
    else return .directory id isNew

def courseInRoom (call : CopyCall) (above : List NodeId) (isOperand : Bool) (place : Placing)
    (id : NodeId) (room : Room) : CopyAct Course := do
  let goOn (isNew : Bool) (kept : Option Path) : CopyAct Course := do
    let job ← job
    if ← isThroughNew call.how isOperand place.target then
      return .over (← fail ("will not copy " ++ quotedName place.source ++
        " through just-created symlink " ++ quotedName place.target))
    else if job.files.isDirectory id then directoryCourse call above isOperand place id isNew
    else return .file id isNew kept
  match room with
  | .answered result => return .over result
  | .free kept => goOn true kept
  | .taken => goOn false none

def roomFor (how : Copying) (isOperand : Bool) (place : Placing) (id : NodeId) : CopyAct Room := do
  let job ← job
  let looksAtLink := job.files.isDirectory id || job.files.kindOf id = .symlink ||
    how.kind != .content || how.removesFirst || how.backups.kind != .nothing
  match job.files.resolve (!looksAtLink) job.dir place.target with
  | .error .noSuchFile => return .free none
  | .error e =>
    if e = .tooManyLinks && how.isForced then return .taken
    else return .answered (← failOf ("cannot stat " ++ quotedName place.target) e)
  | .ok old => how.makeRoom isOperand place id old

def course (call : CopyCall) (above : List NodeId) (isOperand : Bool) (place : Placing) :
    CopyAct Course := do
  let how := call.how
  let job ← job
  match job.files.resolve (how.follows || (isOperand && how.followsOperands)) job.dir
      place.source with
  | .error e => return .over (← failOf ("cannot stat " ++ quotedName place.source) e)
  | .ok id =>
    let isDirectory := job.files.isDirectory id
    let memory ← get
    let isRepeated := isOperand && !isDirectory && how.backups.kind = .nothing &&
      memory.sources.any fun (path, other) =>
        other = id && job.files.isSameEntry job.dir path place.source
    if isDirectory && !how.isRecursive then
      return .over (← fail ("-r not specified; omitting directory " ++ quotedName place.source))
    else if isRepeated then
      (complain ("warning: source file " ++ quotedName place.source ++
        " specified more than once") : Act Unit)
      return .over { code := 0 }
    else
      if isOperand then modify fun m => { m with sources := (place.source, id) :: m.sources }
      courseInRoom call above isOperand place id (← roomFor how isOperand place id)

def copyFile (how : Copying) (isOperand : Bool) (place : Placing) (id : NodeId) (isNew : Bool)
    (kept : Option Path) : CopyAct Copied := do
  (announce how place kept : Act Unit)
  let before ← job
  let result ←
    match how.kind, before.files.kind? id with
    | .symbolicLink, _ => copyAsSymbolicLink how place
    | .hardLink, _ => copyAsHardLink how id place
    | .content, some (.symlink text) => copyLink how text place
    | .content, _ => copyContent how id place isNew
  let after ← job
  match result.code, (after.files.resolve false after.dir place.target).toOption with
  | 0, some made =>
    if isOperand then modify fun m => { m with placed := (place.target, made) :: m.placed }
  | _, _ => pure ()
  return result

/-- Makes the copy of a directory if it is missing. Gives the copy with the mode it gets at the end. -/
def beginDirectory (how : Copying) (hasMade : Bool) (place : Placing) (id : NodeId)
    (isNew : Bool) : CopyAct (Except Copied (Option NodeId × Mode)) := do
  let job ← job
  let sourceMode := job.files.mode id
  let mode := if how.keepsModes then sourceMode else (sourceMode &&& 0o777).masked job.umask
  let made : Except IoError FileTree :=
    if isNew then job.files.makeDirectory job.dir place.target (mode ||| 0o700) else .ok job.files
  match made with
  | .error e => return .error (← failOf ("cannot create directory " ++ quotedName place.target) e)
  | .ok files =>
    keep files
    let copy := (files.resolve true job.dir place.target).toOption
    if isNew then
      (announce how place none : Act Unit)
      match copy with
      | some copy =>
        if !hasMade then
          modify fun m => { m with directories := (copy, place.target) :: m.directories }
      | none => pure ()
    return .ok (copy, mode)

def endDirectory (how : Copying) (isNew : Bool) (copy : Option NodeId) (mode : Mode) :
    CopyAct Unit := do
  match copy with
  | some copy =>
    if isNew || how.keepsModes then
      (modify fun job => job.withFiles (job.files.setMode copy mode) : Act Unit)
  | none => pure ()

/-- Copies the entries of a directory until one of them stops it. -/
def copyEntries (copyEntry : Path → CopyAct Copied) : (code : Nat) → List Path → CopyAct Copied
  | code, [] => return { code }
  | code, name :: rest => do
    let result ← copyEntry name
    let code := max code result.code
    if result.stops then return { code, stops := true } else copyEntries copyEntry code rest

/-- The names of the entries of a directory that is copied, if it may be read. -/
def readDirectory (place : Placing) (id : NodeId) : CopyAct (Except Copied (List Path)) := do
  let job ← job
  if (job.files.mode id).mayRead then return .ok ((job.files.entries id).map (·.1))
  else return .error (← failOf ("cannot access " ++ quotedName place.source) .permissionDenied)

/-- Copies what is at a path, down to a depth. The directories that it is in come with it, and
whether a directory has been made on the way. -/
def copyAt (call : CopyCall) : (depth : Nat) → (above : List NodeId) → (hasMade isOperand : Bool) →
    Placing → CopyAct Copied
  | 0, _, _, _, _ => done
  | depth + 1, above, hasMade, isOperand, place => do
    match ← course call above isOperand place with
    | .over result => return result
    | .file id isNew kept => copyFile call.how isOperand place id isNew kept
    | .directory id isNew =>
      match ← beginDirectory call.how hasMade place id isNew with
      | .error result => return result
      | .ok (copy, mode) =>
        let result ←
          match ← readDirectory place id with
          | .error result => pure result
          | .ok names =>
            copyEntries
              (fun name => copyAt call depth (id :: above) (hasMade || isNew) false
                ⟨pathIn place.source name, pathIn place.target name⟩)
              0 names
        endDirectory call.how isNew copy mode
        return result

/-- Copies one operand. A file that is copied onto itself by force gets a copy under the name of its
backup. -/
def one (how : Copying) (place : Placing) : CopyAct Nat := do
  let job ← job
  let isFile : Bool :=
    match job.files.resolve true job.dir place.source with
    | .ok id => job.files.kindOf id = .file
    | .error _ => false
  let copiesAside := how.isForced && how.backups.kind != .nothing && place.source = place.target
  let (how, place) : Copying × Placing :=
    if copiesAside && isFile then
      ({ how with backups := ⟨.nothing, []⟩ },
        { place with target := how.backups.path job.files job.dir place.source })
    else (how, place)
  return (← copyAt ⟨how, place⟩ (job.files.nodes.size + 1) [] false true place).code

/-- Makes the directories that the place of an operand is in, with the modes of those that the operand
is in. -/
def makeAbove (how : Copying) (dir source : Path) : Act (Option Nat) := do
  let rec go : List Path → Act (Option Nat)
    | [] => return none
    | path :: rest => do
      let job ← get
      let target := pathIn dir path
      match job.files.resolve true job.dir target, job.files.resolve true job.dir path with
      | .ok id, _ =>
        if job.files.isDirectory id then go rest
        else some <$> refuse (quotedName target ++ " exists but is not a directory")
      | .error _, .error e => some <$> refuseOf ("failed to get attributes of " ++ quotedName path) e
      | .error _, .ok id =>
        if !job.files.isDirectory id then
          return some (← refuseOf ("failed to get attributes of " ++ quotedName path) .notADirectory)
        let mode := (job.files.mode id &&& 0o777).masked job.umask
        match ← changeFiles (·.makeDirectory job.dir target mode) with
        | .error e => some <$> refuseOf ("cannot make directory " ++ quotedName target) e
        | .ok () =>
          report how.isVerbose (path ++ " -> " ++ target)
          go rest
  go ((beginnings source).map withoutTrailingSlashes)

/-- Copies one operand to its whole path below a directory. -/
def oneBelow (how : Copying) (dir : Path) (place : Placing) : CopyAct Nat := do
  match ← (makeAbove how dir place.source : Act (Option Nat)) with
  | some code => return code
  | none => how.one place

/-- The place of an operand in a directory. What lies above a directory gets no name of its own. -/
def place (dir source : Path) : Placing :=
  if lastName source = ['.', '.'] then ⟨source, pathIn dir ['.']⟩ else placeIn dir source

end Copying

/-- The options of `cp`. -/
def copyChoices : List Choice :=
  [⟨'a', "archive", .nothing⟩, ⟨' ', "attributes-only", .nothing⟩, ⟨' ', "backup", .maybe⟩,
    ⟨' ', "copy-contents", .nothing⟩, ⟨'L', "dereference", .nothing⟩, ⟨'f', "force", .nothing⟩,
    ⟨'i', "interactive", .nothing⟩, ⟨'l', "link", .nothing⟩, ⟨'n', "no-clobber", .nothing⟩,
    ⟨'P', "no-dereference", .nothing⟩, ⟨' ', "no-preserve", .value⟩,
    ⟨'T', "no-target-directory", .nothing⟩, ⟨'x', "one-file-system", .nothing⟩,
    ⟨' ', "parents", .nothing⟩, ⟨' ', "path", .nothing⟩, ⟨' ', "preserve", .maybe⟩,
    ⟨'R', "recursive", .nothing⟩, ⟨' ', "remove-destination", .nothing⟩, ⟨' ', "sparse", .value⟩,
    ⟨' ', "reflink", .maybe⟩, ⟨' ', "strip-trailing-slashes", .nothing⟩, ⟨'S', "suffix", .value⟩,
    ⟨'s', "symbolic-link", .nothing⟩, ⟨'t', "target-directory", .value⟩, ⟨'u', "update", .nothing⟩,
    ⟨'v', "verbose", .nothing⟩, ⟨'Z', "context", .nothing⟩] ++ letters "bdHpr"

def cp (args : List Octets) : Act Nat :=
  withOptions copyChoices 1 args fun given => do
    let job ← get
    let isRecursive := given.has "r" || given.has "R" || given.has "a"
    let following := given.last? ["L", "P", "H", "d", "a"]
    let mode := given.last? ["n", "i"]
    let kind : CopyKind :=
      if given.has "l" then .hardLink else if given.has "s" then .symbolicLink else .content
    let hasParents := given.has "parents" || given.has "path"
    match Backups.ofGiven given job with
    | .error refusal => refusal.answer
    | .ok backups =>
      let how : Copying := {
        kind, isRecursive
        follows := following = some "L" ||
          (following.isNone && !(isRecursive && kind != .hardLink))
        followsOperands := following = some "H"
        isForced := given.has "f", keepsOld := mode = some "n", asks := mode = some "i"
        keepsModes := given.has "p" || given.has "a" || given.has "preserve"
        keepsHardLinks := given.has "a" || given.has "d"
        removesFirst := given.has "remove-destination", isVerbose := given.has "v", backups }
      let bare (path : Path) : Path :=
        let bare := withoutTrailingSlashes path
        if bare.isEmpty then path else bare
      let given :=
        if given.has "strip-trailing-slashes" then
          { given with operands := given.operands.map bare }
        else given
      let target := (given.value? "t").or given.operands.getLast?
      if mode = some "n" && (given.has "b" || given.has "backup" || given.has "S") then
        misuse 1 "options --backup and --no-clobber are mutually exclusive"
      else if given.has "l" && given.has "s" then misuse 1 "cannot make both hard and symbolic links"
      else if hasParents && 2 ≤ given.operands.length && (given.has "T" ||
          !(target.any (job.files.isDirectoryAt job.dir))) then
        misuse 1 "with --parents, the destination must be a directory"
      else if hasParents then
        let place (dir source : Path) : Placing := ⟨source, pathIn dir (bare source)⟩
        placeEach given { isDirectory := asDirectory job, needsTwo := true, place } {}
          (how.oneBelow (target.getD []))
      else
        placeEach given { isDirectory := asDirectory job, needsTwo := true, place := Copying.place } {}
          how.one

end LineShell.Machine.Tools
