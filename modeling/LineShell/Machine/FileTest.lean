import LineShell.Machine.Job

/-!
# Tests of files

What a letter asks of the file at a path, and how two files compare.
-/

namespace LineShell.Machine

/-- Whether a path leads to a symbolic link itself. -/
def FileTree.isSymlinkAt (t : FileTree) (dir : NodeId) (path : Path) : Bool :=
  match t.resolve false dir path with
  | .ok id => t.kindOf id = .symlink
  | .error _ => false

def FileTree.hasContent (t : FileTree) (id : NodeId) : Bool :=
  match t.kind? id with
  | some (.file (.bytes data)) => !data.isEmpty
  | some .null => false
  | _ => true

def fileTestLetters : List Char := "abcdefghkprsuwxLOGNS".toList

def Job.satisfies (job : Job) (letter : Char) (path : Path) : Bool :=
  if letter = 'h' || letter = 'L' then job.files.isSymlinkAt job.dir path
  else
    match job.files.resolve true job.dir path with
    | .error _ => false
    | .ok id =>
      let mode := job.files.mode id
      match letter with
      | 'a' | 'e' | 'O' | 'G' => true
      | 'f' => job.files.kindOf id = .file
      | 'd' => job.files.isDirectory id
      | 'c' => job.files.kind? id = some .null
      | 's' => job.files.hasContent id
      | 'r' => mode.mayRead
      | 'w' => mode.mayWrite
      | 'x' => mode.mayExecute
      | 'u' => mode.testBit 11
      | 'g' => mode.testBit 10
      | 'k' => mode.testBit 9
      | _ => false

def Job.areSame (job : Job) (first second : Path) : Bool :=
  match job.files.resolve true job.dir first, job.files.resolve true job.dir second with
  | .ok x, .ok y => x = y
  | _, _ => false

end LineShell.Machine
