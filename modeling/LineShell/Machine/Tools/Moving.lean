import LineShell.Machine.Tools.Placement

/-!
# Moving files

A file gets another name, in the place of what had that name before unless that would lose what the
call is to move.
-/

namespace LineShell.Machine.Tools

structure Moving where
  keepsOld : Bool
  asks : Bool
  isVerbose : Bool
  backups : Backups

namespace Moving

/-- Moves a file whose place is free, or is to be replaced. -/
def carryOut (m : Moving) (place : Placing) (id : NodeId) (kept : Option Path) (files : FileTree) :
    StateT Placed Act Nat := do
  let job ← (get : Act Job)
  match files.rename job.dir place.source place.target with
  | .error .invalidArgument =>
    (refuse ("cannot move " ++ quotedName place.source ++ " to a subdirectory of itself, " ++
      quotedName place.target) : Act Nat)
  | .error e =>
    (refuseOf ("cannot move " ++ quotedName place.source ++ " to " ++ quotedName place.target) e :
      Act Nat)
  | .ok files =>
    (MonadState.set (job.withFiles files) : Act Unit)
    (report m.isVerbose ("renamed " ++ quotedName place.source ++ " -> " ++
      quotedName place.target ++ backupNote kept) : Act Unit)
    modify ((place.target, id) :: ·)
    return 0

/-- Moves a file onto what is in its place. -/
def replace (m : Moving) (place : Placing) (id old : NodeId) : StateT Placed Act Nat := do
  let job ← (get : Act Job)
  let hasBackups := m.backups.kind != .nothing
  match if hasBackups then none else placingFault? job.files id old place with
  | some text => (refuse text : Act Nat)
  | none =>
    if m.backups.kind != .numbered && !job.files.isDirectory old &&
        (← get).contains (place.target, old) then (refuseAgain place : Act Nat)
    else if !hasBackups || [['.'], ['.', '.']].contains (lastName place.source) then
      m.carryOut place id none job.files
    else if isOwnBackup job m.backups place then
      (refuse ("backing up " ++ quotedName place.target ++ " might destroy source;  " ++
        quotedName place.source ++ " not moved") : Act Nat)
    else
      let kept := m.backups.path job.files job.dir place.target
      match job.files.rename job.dir place.target kept with
      | .error e => (refuseOf ("cannot backup " ++ quotedName place.target) e : Act Nat)
      | .ok files => m.carryOut place id (some kept) files

def one (m : Moving) (place : Placing) : StateT Placed Act Nat := do
  let job ← (get : Act Job)
  match job.files.resolve false job.dir place.source with
  | .error e => (refuseOf ("cannot stat " ++ quotedName place.source) e : Act Nat)
  | .ok id =>
    match job.files.resolve false job.dir place.target with
    | .error .noSuchFile => m.carryOut place id none job.files
    | .error e => (refuseOf ("cannot stat " ++ quotedName place.target) e : Act Nat)
    | .ok old =>
      let meeting : Meeting := {
        isMove := true, keepsLinks := true, linksHard := false, linksSymbolic := false
        removesFirst := false, hasBackups := m.backups.kind != .nothing }
      match sameness job meeting place id old with
      | .same => (refuseSame place : Act Nat)
      | .settled => return 0
      | .differs =>
        if m.keepsOld then return 0
        else if ← (goesOn m.asks ("overwrite " ++ quotedName place.target) : Act Bool) then
          m.replace place id old
        else return 0

end Moving

def mv (args : List Octets) : Act Nat :=
  withOptions
    [⟨' ', "backup", .maybe⟩, ⟨'Z', "context", .nothing⟩, ⟨'f', "force", .nothing⟩,
      ⟨'i', "interactive", .nothing⟩, ⟨'n', "no-clobber", .nothing⟩,
      ⟨'T', "no-target-directory", .nothing⟩, ⟨' ', "strip-trailing-slashes", .nothing⟩,
      ⟨'S', "suffix", .value⟩, ⟨'t', "target-directory", .value⟩, ⟨'u', "update", .nothing⟩,
      ⟨'v', "verbose", .nothing⟩, ⟨'b', "", .nothing⟩] 1 args fun given => do
    let job ← get
    let mode := given.last? ["n", "f", "i"]
    match Backups.ofGiven given job with
    | .error refusal => refusal.answer
    | .ok backups =>
      if mode = some "n" && (given.has "b" || given.has "backup" || given.has "S") then
        misuse 1 "options --backup and --no-clobber are mutually exclusive"
      else
        let given :=
          if given.has "strip-trailing-slashes" then
            { given with operands := given.operands.map fun path =>
                let bare := withoutTrailingSlashes path
                if bare.isEmpty then path else bare }
          else given
        let m : Moving := {
          keepsOld := mode = some "n", asks := mode = some "i", isVerbose := given.has "v", backups }
        placeEach given { isDirectory := asDirectory job, needsTwo := true } [] m.one

end LineShell.Machine.Tools
