import LineShell.Machine.Tools.Removal

/-!
# Places of files

The last operand of the programs that link, move and copy files may be a directory: then the others
get a place in it under their last names. What is in a place already may be put aside under another
name first, and some of it must not be replaced.
-/

namespace LineShell.Machine.Tools

/-- What a source gets its place by. -/
structure Placing where
  source : Path
  target : Path

def placeIn (dir source : Path) : Placing := ⟨source, pathIn dir (lastName source)⟩

/-- How the operands of a call are read. -/
structure PlacingRules where
  isDirectory : Path → Except IoError Unit
  needsTwo : Bool
  place : Path → Path → Placing := placeIn

/-- The places that the operands of a call say. A target directory may be an option; else the last
operand is a target, and a directory if the call lets it be one and it is. -/
def placings (given : Given) (rules : PlacingRules) : Act (Except Nat (List Placing)) := do
  let job ← get
  let fails (answer : Act Nat) : Act (Except Nat (List Placing)) := do return .error (← answer)
  match given.value? "t", given.operands with
  | some _, [] | none, [] => fails (misuse 1 "missing file operand")
  | some dir, sources =>
    if given.has "T" then
      fails (refuse "cannot combine --target-directory (-t) and --no-target-directory (-T)")
    else
      match job.files.resolveDirectory job.dir dir with
      | .ok _ => return .ok (sources.map (rules.place dir))
      | .error e => fails (refuseOf ("target directory " ++ quotedName dir) e)
  | none, [source] =>
    if rules.needsTwo || given.has "T" then
      fails (misuse 1 ("missing destination file operand after " ++ quotedName source))
    else return .ok [rules.place "." source]
  | none, first :: second :: more =>
    if given.has "T" then
      match more with
      | [] => return .ok [⟨first, second⟩]
      | extra :: _ => fails (misuse 1 ("extra operand " ++ quotedName extra))
    else
      let target := more.getLast?.getD second
      match rules.isDirectory target, more with
      | .ok (), _ => return .ok ((first :: second :: more).dropLast.map (rules.place target))
      | .error _, [] => return .ok [⟨first, second⟩]
      | .error e, _ => fails (refuseOf ("target " ++ quotedName target) e)

/-- Treats each place that the operands say, with what has been treated before in mind. -/
def placeEach {σ : Type} (given : Given) (rules : PlacingRules) (memory : σ)
    (action : Placing → StateT σ Act Nat) : Act Nat := do
  match ← placings given rules with
  | .error code => return code
  | .ok places =>
    let step (sofar : Nat × σ) (place : Placing) : Act (Nat × σ) := do
      let (code, memory) ← (action place).run sofar.2
      return (max sofar.1 code, memory)
    return (← places.foldlM step (0, memory)).1

/-- Whether a path leads to a directory, and the fault if not. -/
def asDirectory (job : Job) (path : Path) : Except IoError Unit :=
  (job.files.resolveDirectory job.dir path).map fun _ => ()

/-- The files that a call has put in their places: their paths and their nodes. -/
abbrev Placed := List (Path × NodeId)

def placingFault? (files : FileTree) (source old : NodeId) (place : Placing) : Option Octets :=
  if files.isDirectory source && !files.isDirectory old then
    some ("cannot overwrite non-directory " ++ quotedName place.target ++ " with directory " ++
      quotedName place.source)
  else if !files.isDirectory source && files.isDirectory old then
    some ("cannot overwrite directory " ++ quotedName place.target ++ " with non-directory")
  else none

/-- Under which names old files are kept. -/
inductive BackupKind where
  | nothing
  | simple
  | existing
  | numbered
  deriving DecidableEq, Repr

structure Backups where
  kind : BackupKind
  suffix : Octets

namespace Backups

def kinds : List (List String × BackupKind) :=
  [(["none", "off"], .nothing), (["simple", "never"], .simple), (["existing", "nil"], .existing),
    (["numbered", "t"], .numbered)]

/-- How a call keeps old files: what its options say, and the environment where they do not. -/
def ofGiven (given : Given) (job : Job) : Except Refusal Backups :=
  let fromEnvironment (name : String) : Option Octets :=
    (job.value? (Octets.ofString name)).filter (!·.isEmpty)
  let suffix := ((given.value? "S").or (fromEnvironment "SIMPLE_BACKUP_SUFFIX")).getD ['~']
  let suffix : Octets := if suffix.isEmpty || suffix.contains '/' then ['~'] else suffix
  let kind : Except Refusal BackupKind :=
    if !(given.has "b" || given.has "backup" || given.has "S") then .ok .nothing
    else
      match (given.value? "backup").filter (!·.isEmpty), fromEnvironment "VERSION_CONTROL" with
      | some word, _ => meaningOf "backup type" kinds word
      | none, some word => meaningOf "$VERSION_CONTROL" kinds word
      | none, none => .ok .existing
  kind.map (⟨·, suffix⟩)

def greatestNumber (files : FileTree) (dir : NodeId) (path : Path) : Nat :=
  match files.entryAt dir path with
  | .ok (parent, name, _) =>
    ((files.entries parent).filterMap fun (other, _) =>
      let rest := other.drop (name.length + 2)
      if startsWith (name ++ ['.', '~']) other && rest.getLast? = some '~' then number? rest.dropLast
      else none).foldl max 0
  | .error _ => 0

def path (b : Backups) (files : FileTree) (dir : NodeId) (path : Path) : Path :=
  let bare := withoutTrailingSlashes path
  let number := greatestNumber files dir bare
  if b.kind = .numbered || (b.kind = .existing && number ≠ 0) then
    bare ++ '.' :: '~' :: decimal (number + 1) ++ ['~']
  else bare ++ b.suffix

end Backups

/-- What a call that may meet one file twice has to know of itself. -/
structure Meeting where
  isMove : Bool
  keepsLinks : Bool
  linksHard : Bool
  linksSymbolic : Bool
  removesFirst : Bool
  hasBackups : Bool

/-- What comes of a source and a target that may be one file. -/
inductive Sameness where
  | differs
  | settled
  | same
  deriving DecidableEq, Repr

/-- Whether a source and a target count as one file, given the nodes that the call takes for them.
Replacing the target would then lose the source. -/
def sameness (job : Job) (m : Meeting) (place : Placing) (source target : NodeId) : Sameness :=
  let files := job.files
  let isLink (id : NodeId) : Bool := files.kindOf id = .symlink
  let isSameEntry := files.isSameEntry job.dir place.source place.target
  let bareSource := (files.resolve false job.dir place.source).toOption.getD source
  let bareTarget := (files.resolve false job.dir place.target).toOption.getD target
  let areLinks := isLink bareSource && isLink bareTarget
  let hasMoreNames := 1 < files.nameCount bareTarget || files.isDirectory bareTarget
  let canonical : Option Path :=
    if m.isMove && isLink bareSource && hasMoreNames then
      (canonicalPath job .all place.source).toOption
    else none
  if source = target && m.linksHard then .settled
  else if m.keepsLinks && areLinks then
    if isSameEntry || (bareSource = bareTarget && m.isMove && !m.hasBackups) then .same
    else if bareSource != bareTarget || m.hasBackups then .differs
    else .settled
  else if !m.keepsLinks && (source != target || (areLinks && m.removesFirst)) then .differs
  else if m.hasBackups then
    if source = target && isSameEntry then .same else .differs
  else if (m.isMove || m.removesFirst) && isLink bareTarget then .differs
  else if (m.isMove || m.removesFirst) && bareSource = bareTarget && hasMoreNames && !isSameEntry then
    if m.isMove then .same else .differs
  else if !isLink bareSource && !isLink bareTarget && bareSource != bareTarget then .differs
  else
    match canonical with
    | some path => if files.isSameEntry job.dir path place.target then .same else .differs
    | none =>
      if m.linksSymbolic && isLink bareTarget then .differs
      else if m.keepsLinks then
        match files.resolve true job.dir place.source, files.resolve true job.dir place.target with
        | .ok x, .ok y => if x = y then .same else .differs
        | _, _ => .differs
      else .same

/-- The answer to a source and a target that are one file. -/
def refuseSame (place : Placing) : Act Nat :=
  refuse (quotedName place.source ++ " and " ++ quotedName place.target ++ " are the same file")

/-- The answer to a file that would be replaced by the call that has just made it. -/
def refuseAgain (place : Placing) : Act Nat :=
  refuse ("will not overwrite just-created " ++ quotedName place.target ++ " with " ++
    quotedName place.source)

/-- Whether the backup of a target is what the source names. -/
def isOwnBackup (job : Job) (b : Backups) (place : Placing) : Bool :=
  b.kind != .numbered && b.kind != .nothing &&
    job.files.isSameEntry job.dir place.source (withoutTrailingSlashes place.target ++ b.suffix)

/-- The end of a report that tells where the old file is. -/
def backupNote : Option Path → Octets
  | some path => " (backup: " ++ quotedName path ++ ")"
  | none => []

end LineShell.Machine.Tools
