import LineShell.Machine.Tools.Directories

/-!
# Removing files

A directory is removed after what is in it. What cannot be removed is complained of and stays.
-/

namespace LineShell.Machine.Tools

/-- When it is asked before something is removed. -/
inductive Asking where
  | never
  /-- Once, if many files or whole directories are to go. -/
  | once
  | always
  deriving DecidableEq, Repr

structure Removing where
  isRecursive : Bool
  takesEmpty : Bool
  isForced : Bool
  isVerbose : Bool
  asking : Asking

/-- The faults that say that there is nothing to remove. -/
def isAbsence (e : IoError) : Bool := e = .noSuchFile || e = .notADirectory

/-- Complains of what cannot be removed, unless nothing was there and that is fine. -/
def refuseRemoval (r : Removing) (path : Path) (e : IoError) : Act Nat := do
  if r.isForced && isAbsence e then return 0
  else
    complainOf ("cannot remove " ++ quotedName path) e
    return 1

def removeDirectoryAt (r : Removing) (path : Path) : Act Nat := do
  let job ← get
  match ← changeFiles (·.removeDirectory job.dir path) with
  | .ok () =>
    report r.isVerbose ("removed directory " ++ quotedName path)
    return 0
  | .error e => refuseRemoval r path e

def kindName (files : FileTree) (id : NodeId) : Octets :=
  match files.kindOf id with
  | .directory => "directory"
  | .symlink => "symbolic link"
  | .file => if files.hasContent id then "regular file" else "regular empty file"
  | .other => "character special file"

/-- What came of the removal of a file. -/
inductive Removed where
  | done
  | declined
  | failed
  deriving DecidableEq, Repr

/-- What came of something that ended with a code. -/
def Removed.ofCode (code : Nat) : Removed := if code = 0 then .done else .failed

/-- Removes a file after asking, if that is to be asked, whether to do so. -/
def removeAsked (r : Removing) (question : Octets) (removal : Act Nat) : Act Removed := do
  if ← goesOn (r.asking = .always) question then return .ofCode (← removal) else return .declined

def removeFileAt (r : Removing) (path : Path) : Act Nat := do
  let job ← get
  match ← changeFiles (·.removeFile job.dir path) with
  | .ok () =>
    report r.isVerbose ("removed " ++ quotedName path)
    return 0
  | .error e => refuseRemoval r path e

def removeAt (r : Removing) : (depth : Nat) → Path → Act Removed
  | 0, _ => return .done
  | depth + 1, path => do
    let job ← get
    match job.files.resolve false job.dir path with
    | .error e =>
      if r.asking = .always then return .ofCode (← refuseRemoval r path e)
      else return .ofCode (← removeFileAt r path)
    | .ok id =>
      let removal : Octets := "remove " ++ kindName job.files id ++ [' '] ++ quotedName path
      if !job.files.isDirectory id then removeAsked r removal (removeFileAt r path)
      else
        let entries := job.files.entries id
        if !r.isRecursive && (!r.takesEmpty || !entries.isEmpty) then
          return .ofCode (← refuseRemoval r path (if r.takesEmpty then .notEmpty else .isADirectory))
        else if entries.isEmpty then removeAsked r removal (removeDirectoryAt r path)
        else if !(← goesOn (r.asking = .always) ("descend into directory " ++ quotedName path)) then
          return .declined
        else if !(job.files.mode id).mayRead then
          complainOf ("cannot remove " ++ quotedName path) .permissionDenied
          return .failed
        else
          let mut results : List Removed := []
          for (name, _) in entries do
            results := (← removeAt r depth (pathIn path name)) :: results
          if results.contains .failed then return .failed
          else if results.contains .declined then return .declined
          else removeAsked r removal (removeDirectoryAt r path)

def removeOperand (r : Removing) (path : Path) : Act Nat := do
  let job ← get
  let name := lastName path
  if r.isRecursive && (name = ['.'] || name = ['.', '.']) &&
      job.files.existsAt false job.dir path then
    refuse ("refusing to remove '.' or '..' directory: skipping " ++ quotedName path)
  else if r.isRecursive && !path.isEmpty && path.all (· = '/') then
    complain "it is dangerous to operate recursively on '/'"
    refuse "use --no-preserve-root to override this failsafe"
  else return if (← removeAt r job.files.nodes.size path) = .failed then 1 else 0

/-- The options of `rm`. -/
def removalChoices : List Choice :=
  [⟨'f', "force", .nothing⟩, ⟨' ', "interactive", .maybe⟩, ⟨' ', "one-file-system", .nothing⟩,
    ⟨' ', "no-preserve-root", .nothing⟩, ⟨' ', "preserve-root", .maybe⟩,
    ⟨'r', "recursive", .nothing⟩, ⟨'d', "dir", .nothing⟩, ⟨'v', "verbose", .nothing⟩,
    ⟨'i', "", .nothing⟩, ⟨'I', "", .nothing⟩, ⟨'R', "", .nothing⟩]

/-- When the options of a call say to ask, the last one first. -/
def asking (given : Given) : Except Refusal Asking :=
  let occasions : List (List String × Asking) :=
    [(["never", "no", "none"], .never), (["once"], .once), (["always", "yes"], .always)]
  given.set_.foldlM
    (fun sofar (key, value) =>
      match key, value with
      | "f", _ => .ok .never
      | "i", _ | "interactive", none => .ok .always
      | "I", _ => .ok .once
      | "interactive", some word => meaningOf "--interactive" occasions word
      | _, _ => .ok sofar)
    .never

/-- Removes files, and directories with what is in them if told to. -/
def rm (args : List Octets) : Act Nat :=
  withOptions removalChoices 1 args fun given => do
    match asking given with
    | .error refusal => refusal.answer
    | .ok asking =>
      let r : Removing := {
        isRecursive := given.has "r" || given.has "R", takesEmpty := given.has "d"
        isForced := given.last? ["f", "i", "I"] = some "f", isVerbose := given.has "v", asking }
      let count := given.operands.length
      let asksOnce := asking = .once && (r.isRecursive || 3 < count)
      let question : Octets := "remove " ++ decimal count ++
        (if count = 1 then " argument" else " arguments") ++
        (if r.isRecursive then " recursively" else "")
      if given.operands.isEmpty then
        if r.isForced then return 0 else misuse 1 "missing operand"
      else if ← goesOn asksOnce question then forEach given.operands (removeOperand r)
      else return 0

end LineShell.Machine.Tools
