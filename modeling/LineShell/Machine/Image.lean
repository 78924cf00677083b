import LineShell.Machine.PathSearch

/-!
# What files start

A file has to be executable to be started, and is either a program of the machine or a script that
names its interpreter on its first line. Only the start of a script is looked at, and the interpreter
may be a script in its turn.
-/

namespace LineShell.Machine

/-- A program that can be started: what it is, what it is called as if that is not the first
argument of the call, and the operands that come before the others. -/
structure Image where
  tool : Tool
  calledAs : Option Octets
  operands : List Octets
  deriving DecidableEq, Repr

/-- Whether a byte separates the parts of an interpreter line. -/
def isLineBlank (c : Char) : Bool := c = ' ' || c = '\t'

/-- Whether a byte ends a part of an interpreter line. -/
def endsLinePart (c : Char) : Bool := isLineBlank c || c = '\x00'

/-- The bytes that are looked at for an interpreter line. -/
def interpreterReach : Nat := 256

/-- The interpreter line that the first bytes of a script hold after the two signs at its start, and
the byte behind it. A line that does not end within them is one only if the interpreter's name
does. -/
def interpreterText (seen : Octets) : Except IoError (Octets × Char) :=
  let beforeNul := seen.takeWhile (· != '\x00')
  if beforeNul.contains '\n' then
    let text := seen.takeWhile (· != '\n')
    .ok (text, '\n')
  else
    let named := seen.dropWhile isLineBlank
    if named.any endsLinePart then .ok (seen.dropLast, seen.getLast?.getD '\x00')
    else .error .notExecutable

/-- The interpreter that a script names, and its operand if there is one. The operand goes to the end
of the line and may hold blanks. -/
def interpreter (data : Octets) : Except IoError (Path × List Octets) :=
  match data with
  | '#' :: '!' :: rest => do
    let length := interpreterReach - 2
    let seen := rest.take length
    let seen := seen ++ List.replicate (length - seen.length) '\x00'
    let (text, behind) ← interpreterText seen
    let text := dropEndWhile isLineBlank text
    let named := text.dropWhile isLineBlank
    if named.isEmpty then .error .notExecutable
    else
      let path := named.takeWhile fun c => !endsLinePart c
      let whole := named ++ [behind]
      match whole.drop path.length with
      | separator :: _ =>
        if separator = '\x00' || path.length = named.length then .ok (path, [])
        else
          let operand := (named.drop path.length).dropWhile isLineBlank
          .ok (path, [operand.takeWhile (· != '\x00')])
      | [] => .ok (path, [])
  | _ => .error .notExecutable

/-- The interpreters that may stand between a script and a program. -/
def mostInterpreters : Nat := 5

def executableAt (files : FileTree) (dir : NodeId) (path : Path) : Except IoError FileContent :=
  match files.resolve true dir path with
  | .error e => .error e
  | .ok id =>
    match files.node? id with
    | some ⟨.file content, mode⟩ =>
      if mode.mayExecute then .ok content else .error .permissionDenied
    | _ => .error .permissionDenied

/-- What starting the file at a path starts. An interpreter too many is looked for, but not taken. -/
def imageAt (files : FileTree) (dir : NodeId) : (depth : Nat) → Path → Except IoError Image
  | 0, path =>
    match executableAt files dir path with
    | .error e => .error e
    | .ok _ => .error .tooManyLinks
  | depth + 1, path =>
    match executableAt files dir path with
    | .error e => .error e
    | .ok (.tool tool) => .ok ⟨tool, none, []⟩
    | .ok (.bytes data) =>
      match interpreter data with
      | .error e => .error e
      | .ok (name, operands) =>
        if name.isEmpty then .error .permissionDenied
        else
          match imageAt files dir depth name with
          | .error e => .error e
          | .ok image =>
            .ok ⟨image.tool, some (image.calledAs.getD name), image.operands ++ operands ++ [path]⟩

def Job.imageAt (job : Job) (path : Path) : Except IoError Image :=
  Machine.imageAt job.files job.dir (mostInterpreters + 1) path

def findImage (job : Job) (name : Octets) : Except IoError Image := job.attemptAt job.imageAt name

end LineShell.Machine
