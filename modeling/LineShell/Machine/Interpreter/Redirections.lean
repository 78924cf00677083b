import LineShell.Machine.Interpreter.Commands
import LineShell.Machine.Interpreter.Expansion

/-!
# Redirections

The targets of redirections are expanded first; then descriptors are led to them one after the
other, and the first that fails ends the command.
-/

namespace LineShell.Machine.Interpreter

open Machine.Script (Redirection)

/-- Where a descriptor is to lead. -/
inductive Target where
  | reading (path : Path)
  | writing (path : Path) (appends clobbers : Bool)
  | both (path : Path)
  | copyOf (fd : Nat)
  | closed
  | text (data : Octets)

def duplicated (text : Octets) : Run Target := do
  match text with
  | ['-'] => return .closed
  | [digit] => if digit.isDigit then return .copyOf (numberIn 10 [digit]) else bad
  | _ => bad
where
  bad : Run Target := do
    modify fun s => { s with line := s.nextLine }
    fail "Syntax error: Bad fd number"

def targetOf (substitute : Substitute) : Redirection → Run (Nat × Target)
  | .read fd word => do return (fd, .reading (← expandToText substitute word))
  | .write fd word appends clobbers => do
    return (fd, .writing (← expandToText substitute word) appends clobbers)
  | .readWrite fd word => do return (fd, .both (← expandToText substitute word))
  | .duplicate fd word => do return (fd, ← duplicated (← expandToText substitute word))
  | .document fd number => do
    return (fd, .text (← expandDocument substitute (((← get).documents[number]?).getD [])))

/-- Opens a file for a descriptor, or complains. -/
def opened (fd : Nat) (path : Path) (verb missing : String)
    (result : State → Except IoError (Job × ChannelId)) : Run Unit := do
  let s ← get
  match result s with
  | .ok (job, id) => set { s with job := job.lead fd (some id) }
  | .error e =>
    fail ("cannot " ++ Octets.ofString verb ++ ' ' :: path ++ ": " ++ fileFault missing e)

def isFileAt (s : State) (path : Path) : Bool :=
  match s.job.files.resolve true s.job.dir path with
  | .ok id => s.job.files.kindOf id = .file
  | .error _ => false

/-- Leads a descriptor to its target. One whose former target is to be kept is closed while that is
done. -/
def lead (keeps : Bool) (fd : Nat) (target : Target) : Run Unit := do
  match target with
  | .reading path =>
    opened fd path "open" "No such file" fun s => s.job.openFile path true false false false false
  | .writing path appends clobbers =>
    opened fd path "create" "Directory nonexistent" fun s =>
      if s.options.contains 'C' && !appends && !clobbers && isFileAt s path then
        .error .fileExists
      else s.job.openFile path false true appends (!appends) true
  | .both path =>
    opened fd path "create" "Directory nonexistent" fun s =>
      s.job.openFile path true true false false true
  | .copyOf source =>
    let s ← get
    unless source = fd do
      match s.job.channel? source with
      | some id => set { s with job := s.job.lead fd (some id) }
      | none =>
        if keeps then set { s with job := s.job.lead fd none }
        fail (decimal source ++ ": " ++ Octets.ofString IoError.badDescriptor.text)
  | .closed => modify fun s => { s with job := s.job.lead fd none }
  | .text data =>
    modify fun s =>
      let (world, id) := s.job.world.addChannel (.pipe data)
      { s with job := { s.job with world }.lead fd (some id) }

/-- Leads descriptors to their targets, and keeps the former targets of those that are not among
some that were kept before. -/
def leadKeeping (kept : List Nat) : List (Nat × Target) → Run Unit
  | [] => return ()
  | (fd, target) :: rest => do
    lead (!kept.contains fd) fd target
    leadKeeping (fd :: kept) rest

def leadAll : List (Nat × Target) → Run Unit
  | [] => return ()
  | (fd, target) :: rest => do
    lead false fd target
    leadAll rest

/-- Leads descriptors to their targets for a while, and says whether that was possible. -/
def tryLeadAll (targets : List (Nat × Target)) : Run Bool := do
  match ← observed (leadKeeping [] targets) with
  | .ok () => return true
  | .error .error => return false
  | .error interrupt => throw interrupt

end LineShell.Machine.Interpreter
