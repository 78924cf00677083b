import LineShell.Completion
import LineShell.IoError
import LineShell.Machine.Permission

/-!
# File trees

Files, directories and symbolic links are nodes; a directory knows its parent and names its entries.
A directory that has been removed stays a node without a name, so that whoever stands in it can
tell. Node 0 is the root. Every step along a path asks the permissions of the directory it is in.
-/

namespace LineShell.Machine

abbrev NodeId := Nat

abbrev Path := Octets

/-- The programs that a machine comes with. -/
inductive Tool where
  | basename
  | bracket
  | cat
  | chmod
  | cmp
  | cp
  | cut
  | dirname
  | echo
  | egrep
  | env
  | expr
  | fail
  | fgrep
  | grep
  | head
  | ln
  | ls
  | mkdir
  | mv
  | nl
  | printenv
  | printf
  | pwd
  | readlink
  | realpath
  | rev
  | rgrep
  | rm
  | rmdir
  | seq
  | sh
  | sleep
  | sort
  | succeed
  | tac
  | tail
  | tee
  | test
  | touch
  | tr
  | uniq
  | wc
  | who
  | xargs
  deriving DecidableEq, Repr

def Tool.name : Tool → String
  | .basename => "basename"
  | .bracket => "["
  | .cat => "cat"
  | .chmod => "chmod"
  | .cmp => "cmp"
  | .cp => "cp"
  | .cut => "cut"
  | .dirname => "dirname"
  | .echo => "echo"
  | .egrep => "egrep"
  | .env => "env"
  | .expr => "expr"
  | .fail => "false"
  | .fgrep => "fgrep"
  | .grep => "grep"
  | .head => "head"
  | .ln => "ln"
  | .ls => "ls"
  | .mkdir => "mkdir"
  | .mv => "mv"
  | .nl => "nl"
  | .printenv => "printenv"
  | .printf => "printf"
  | .pwd => "pwd"
  | .readlink => "readlink"
  | .realpath => "realpath"
  | .rev => "rev"
  | .rgrep => "rgrep"
  | .rm => "rm"
  | .rmdir => "rmdir"
  | .seq => "seq"
  | .sh => "sh"
  | .sleep => "sleep"
  | .sort => "sort"
  | .succeed => "true"
  | .tac => "tac"
  | .tail => "tail"
  | .tee => "tee"
  | .test => "test"
  | .touch => "touch"
  | .tr => "tr"
  | .uniq => "uniq"
  | .wc => "wc"
  | .who => "who"
  | .xargs => "xargs"

def Tool.all : List Tool :=
  [.basename, .bracket, .cat, .chmod, .cmp, .cp, .cut, .dirname, .echo, .egrep, .env, .expr, .fail,
    .fgrep, .grep, .head, .ln, .ls, .mkdir, .mv, .nl, .printenv, .printf, .pwd, .readlink, .realpath,
    .rev, .rgrep, .rm, .rmdir, .seq, .sh, .sleep, .sort, .succeed, .tac, .tail, .tee, .test, .touch,
    .tr, .uniq, .wc, .who, .xargs]

inductive FileContent where
  | bytes (data : Octets)
  | tool (tool : Tool)
  deriving DecidableEq, Repr

inductive NodeKind where
  | directory (parent : NodeId) (entries : List (Path × NodeId))
  | file (content : FileContent)
  | symlink (target : Path)
  | null
  deriving DecidableEq, Repr

/-- A place in the tree with its permissions. -/
structure Node where
  kind : NodeKind
  mode : Mode
  deriving DecidableEq, Repr

structure FileTree where
  nodes : Array Node
  deriving Repr

def endsWithSlash (path : Path) : Bool := path.getLast? = some '/'

/-- The parts of a path. One that ends with a slash has a last part that stays where it is. -/
def pathParts (path : Path) : List Path :=
  let names := (path.splitOn '/').filter (!·.isEmpty)
  if endsWithSlash path ∧ names ≠ [] then names ++ [['.']] else names

def isAbsolute (path : Path) : Bool := path.head? = some '/'

def withoutTrailingSlashes (path : Path) : Path := dropEndWhile (· == '/') path

def longestName : Nat := 255

/-- The longest path, its end mark included. -/
def longestPath : Nat := 4096

/-- The symbolic links that may be followed on one path. -/
def mostLinks : Nat := 40

inductive Place where
  | node (id : NodeId)
  | vacant (dir : NodeId) (name : Path)
  deriving DecidableEq, Repr

namespace FileTree

def empty : FileTree := ⟨#[⟨.directory 0 [], 0o755⟩]⟩

def root : NodeId := 0

def node? (t : FileTree) (id : NodeId) : Option Node := t.nodes[id]?

def kind? (t : FileTree) (id : NodeId) : Option NodeKind := (t.node? id).map (·.kind)

def mode (t : FileTree) (id : NodeId) : Mode := ((t.node? id).map (·.mode)).getD 0

def walk (t : FileTree) (follow : Bool) (links : Nat) (dir : NodeId) :
    List Path → Except IoError Place
  | [] => .ok (.node dir)
  | name :: rest =>
    match t.node? dir with
    | some ⟨.directory parent entries, mode⟩ =>
      if longestName < name.length then .error .nameTooLong
      else if !mode.mayExecute then .error .permissionDenied
      else if name = ['.'] then walk t follow links dir rest
      else if name = ['.', '.'] then walk t follow links parent rest
      else
        match entries.lookup name with
        | none => if rest.isEmpty then .ok (.vacant dir name) else .error .noSuchFile
        | some id =>
          match t.kind? id with
          | some (.symlink target) =>
            if rest.isEmpty && !follow then .ok (.node id)
            else
              match links with
              | 0 => .error .tooManyLinks
              | links + 1 =>
                walk t follow links (if isAbsolute target then root else dir)
                  (pathParts target ++ rest)
          | _ => walk t follow links id rest
    | _ => .error .notADirectory
termination_by names => (links, names.length)

def start (dir : NodeId) (path : Path) : NodeId := if isAbsolute path then root else dir

def locate (t : FileTree) (follow : Bool) (dir : NodeId) (path : Path) : Except IoError Place :=
  if path.isEmpty then .error .noSuchFile
  else if longestPath ≤ path.length then .error .nameTooLong
  else t.walk follow mostLinks (start dir path) (pathParts path)

def resolve (t : FileTree) (follow : Bool) (dir : NodeId) (path : Path) : Except IoError NodeId :=
  match t.locate follow dir path with
  | .error e => .error e
  | .ok (.vacant _ _) => .error .noSuchFile
  | .ok (.node id) => .ok id

def existsAt (t : FileTree) (follow : Bool) (dir : NodeId) (path : Path) : Bool :=
  (t.resolve follow dir path).toOption.isSome

def isDirectory (t : FileTree) (id : NodeId) : Bool :=
  match t.kind? id with
  | some (.directory _ _) => true
  | _ => false

def isDirectoryAt (t : FileTree) (dir : NodeId) (path : Path) : Bool :=
  match t.resolve true dir path with
  | .ok id => t.isDirectory id
  | .error _ => false

def entries (t : FileTree) (id : NodeId) : List (Path × NodeId) :=
  match t.kind? id with
  | some (.directory _ entries) => entries
  | _ => []

def resolveDirectory (t : FileTree) (dir : NodeId) (path : Path) : Except IoError NodeId :=
  match t.resolve true dir path with
  | .error e => .error e
  | .ok id => if t.isDirectory id then .ok id else .error .notADirectory

/-- The directory that a path leads to, if one may stand in it. -/
def enter (t : FileTree) (dir : NodeId) (path : Path) : Except IoError NodeId :=
  match t.resolveDirectory dir path with
  | .error e => .error e
  | .ok id => if (t.mode id).mayExecute then .ok id else .error .permissionDenied

def kindOf (t : FileTree) (id : NodeId) : EntryKind :=
  match t.kind? id with
  | some (.directory _ _) => .directory
  | some (.file _) => .file
  | some (.symlink _) => .symlink
  | _ => .other

/-- The names in the directory at a path, if it may be read. -/
def namesAt (t : FileTree) (dir : NodeId) (path : Path) : Except IoError (List (Path × NodeId)) :=
  match t.resolveDirectory dir path with
  | .error e => .error e
  | .ok id => if (t.mode id).mayRead then .ok (t.entries id) else .error .permissionDenied

def list (t : FileTree) (dir : NodeId) (path : Path) : Except IoError (List DirectoryEntry) :=
  (t.namesAt dir path).map fun entries =>
    entries.map fun (name, id) => { name := Octets.toBytes name, kind := t.kindOf id }

def content (t : FileTree) (id : NodeId) : Octets :=
  match t.kind? id with
  | some (.file (.bytes data)) => data
  | _ => []

def openForReading (t : FileTree) (dir : NodeId) (path : Path) : Except IoError NodeId :=
  match t.resolve true dir path with
  | .error e => .error e
  | .ok id =>
    if t.kind? id = some .null || (t.mode id).mayRead then .ok id else .error .permissionDenied

def readFile (t : FileTree) (dir : NodeId) (path : Path) : Except IoError Octets :=
  match t.openForReading dir path with
  | .error e => .error e
  | .ok id => if t.isDirectory id then .error .isADirectory else .ok (t.content id)

/-- The names from the root to a directory, last first; `none` if it has been removed. -/
def namesTo (t : FileTree) : (depth : Nat) → NodeId → Option (List Path)
  | 0, _ => none
  | depth + 1, id =>
    if id = root then some []
    else
      match t.kind? id with
      | some (.directory parent _) =>
        match (t.entries parent).find? (·.2 == id) with
        | none => none
        | some (name, _) => (t.namesTo depth parent).map (name :: ·)
      | _ => none

/-- The absolute path of a directory, free of links; `none` if it has been removed. -/
def pathOf (t : FileTree) (id : NodeId) : Option Path :=
  (t.namesTo t.nodes.size id).map fun names =>
    if names.isEmpty then ['/'] else names.reverse.flatMap ('/' :: ·)

def setKind (t : FileTree) (id : NodeId) (kind : NodeKind) : FileTree :=
  match t.node? id with
  | some node => ⟨t.nodes.set! id { node with kind }⟩
  | none => t

/-- The tree with the permissions of a node replaced. -/
def setMode (t : FileTree) (id : NodeId) (mode : Mode) : FileTree :=
  match t.node? id with
  | some node => ⟨t.nodes.set! id { node with mode }⟩
  | none => t

def setContent (t : FileTree) (id : NodeId) (data : Octets) : FileTree :=
  match t.kind? id with
  | some (.file (.bytes _)) => t.setKind id (.file (.bytes data))
  | _ => t

def addEntry (t : FileTree) (dir : NodeId) (name : Path) (id : NodeId) : FileTree :=
  match t.kind? dir with
  | some (.directory parent entries) => t.setKind dir (.directory parent (entries ++ [(name, id)]))
  | _ => t

def removeEntry (t : FileTree) (dir : NodeId) (name : Path) : FileTree :=
  match t.kind? dir with
  | some (.directory parent entries) =>
    t.setKind dir (.directory parent (entries.filter (·.1 != name)))
  | _ => t

def addNode (t : FileTree) (dir : NodeId) (name : Path) (node : Node) : FileTree :=
  (FileTree.mk (t.nodes.push node)).addEntry dir name t.nodes.size

/-- The directory and the last name of a path, and the node that has this name if there is one.
Links at the end are not followed. -/
def entryAt (t : FileTree) (dir : NodeId) (path : Path) :
    Except IoError (NodeId × Path × Option NodeId) :=
  if path.isEmpty then .error .noSuchFile
  else if longestPath ≤ path.length then .error .nameTooLong
  else
    match (pathParts (withoutTrailingSlashes path)).reverse with
    | [] => .error .fileExists
    | name :: before =>
      match t.walk true mostLinks (start dir path) before.reverse with
      | .error e => .error e
      | .ok (.vacant _ _) => .error .noSuchFile
      | .ok (.node parent) =>
        if !t.isDirectory parent then .error .notADirectory
        else if longestName < name.length then .error .nameTooLong
        else if !(t.mode parent).mayExecute then .error .permissionDenied
        else if name = ['.'] then .ok (parent, name, some parent)
        else if name = ['.', '.'] then
          match t.kind? parent with
          | some (.directory above _) => .ok (parent, name, some above)
          | _ => .error .notADirectory
        else .ok (parent, name, (t.entries parent).lookup name)

/-- Whether a directory still has a name. -/
def isLinked (t : FileTree) (id : NodeId) : Bool := (t.pathOf id).isSome

/-- What keeps the entries of a directory from being changed. -/
def changeFault? (t : FileTree) (dir : NodeId) : Option IoError :=
  if !t.isLinked dir then some .noSuchFile
  else if (t.mode dir).mayWrite && (t.mode dir).mayExecute then none
  else some .permissionDenied

/-- Adds a node where a path leads, if nothing is there. Only a directory may be named with a slash
at the end. -/
def create (t : FileTree) (dir : NodeId) (path : Path) (node : NodeId → Node) :
    Except IoError FileTree :=
  match t.entryAt dir path with
  | .error e => .error e
  | .ok (_, _, some _) => .error .fileExists
  | .ok (parent, name, none) =>
    let fresh := node parent
    let names : Bool :=
      match fresh.kind with
      | .directory _ _ => true
      | _ => !endsWithSlash path
    if !names then .error .noSuchFile
    else
      match t.changeFault? parent with
      | some e => .error e
      | none => .ok (t.addNode parent name fresh)

def makeDirectory (t : FileTree) (dir : NodeId) (path : Path) (mode : Mode) :
    Except IoError FileTree :=
  t.create dir path fun parent => ⟨.directory parent [], mode⟩

def makeSymlink (t : FileTree) (dir : NodeId) (path target : Path) : Except IoError FileTree :=
  if target.isEmpty then .error .noSuchFile
  else t.create dir path fun _ => ⟨.symlink target, 0o777⟩

/-- Opens a file for writing, which makes it with a mode if it is missing. -/
def openForWriting (t : FileTree) (dir : NodeId) (path : Path) (mode : Mode) (truncate : Bool) :
    Except IoError (FileTree × NodeId) :=
  if endsWithSlash path then
    match t.entryAt dir path with
    | .error e => .error (if e = .fileExists then .isADirectory else e)
    | .ok _ => .error .isADirectory
  else
    match t.locate true dir path with
    | .error e => .error e
    | .ok (.vacant parent name) =>
      match t.changeFault? parent with
      | some e => .error e
      | none => .ok (t.addNode parent name ⟨.file (.bytes []), mode⟩, t.nodes.size)
    | .ok (.node id) =>
      match t.node? id with
      | some ⟨.file _, mode⟩ =>
        if !mode.mayWrite then .error .permissionDenied
        else .ok (if truncate then t.setKind id (.file (.bytes [])) else t, id)
      | some ⟨.null, _⟩ => .ok (t, id)
      | _ => .error .isADirectory

def removeDirectory (t : FileTree) (dir : NodeId) (path : Path) : Except IoError FileTree :=
  match t.entryAt dir path with
  | .error e => .error (if e = .fileExists then .busy else e)
  | .ok (_, _, none) => .error .noSuchFile
  | .ok (parent, name, some id) =>
    if name = ['.'] then .error .invalidArgument
    else if name = ['.', '.'] then .error .notEmpty
    else if !t.isDirectory id then .error .notADirectory
    else if t.entries id ≠ [] then .error .notEmpty
    else
      match t.changeFault? parent with
      | some e => .error e
      | none => .ok (t.removeEntry parent name)

def removeFile (t : FileTree) (dir : NodeId) (path : Path) : Except IoError FileTree :=
  match t.entryAt dir path with
  | .error e => .error e
  | .ok (_, _, none) => .error .noSuchFile
  | .ok (parent, name, some id) =>
    if endsWithSlash path then
      .error (if t.isDirectory id then .isADirectory else .notADirectory)
    else if t.isDirectory id then .error .isADirectory
    else
      match t.changeFault? parent with
      | some e => .error e
      | none => .ok (t.removeEntry parent name)

def nameCount (t : FileTree) (id : NodeId) : Nat :=
  (List.range t.nodes.size).foldl (fun count dir => count + (t.entries dir).countP (·.2 == id)) 0

def isSameEntry (t : FileTree) (dir : NodeId) (first second : Path) : Bool :=
  match t.entryAt dir first, t.entryAt dir second with
  | .ok (x, name, some _), .ok (y, other, some _) => x = y && name = other
  | _, _ => false

def link (t : FileTree) (dir : NodeId) (id : NodeId) (path : Path) : Except IoError FileTree :=
  match t.entryAt dir path with
  | .error e => .error e
  | .ok (_, _, some _) => .error .fileExists
  | .ok (parent, name, none) =>
    if endsWithSlash path then .error .noSuchFile
    else
      match t.changeFault? parent with
      | some e => .error e
      | none => .ok (t.addEntry parent name id)

/-- The directories above a directory, itself included, and the root last. -/
def ancestors (t : FileTree) : (depth : Nat) → NodeId → List NodeId
  | 0, id => [id]
  | depth + 1, id =>
    if id = root then [id]
    else
      match t.kind? id with
      | some (.directory parent _) => id :: t.ancestors depth parent
      | _ => [id]

/-- The tree after a node has got another place. -/
def moved (t : FileTree) (id fromDir : NodeId) (fromName : Path) (toDir : NodeId) (toName : Path) :
    FileTree :=
  let t := ((t.removeEntry fromDir fromName).removeEntry toDir toName).addEntry toDir toName id
  match t.kind? id with
  | some (.directory _ entries) => t.setKind id (.directory toDir entries)
  | _ => t

/-- Gives a node another name, which replaces what had that name. -/
def rename (t : FileTree) (dir : NodeId) (source target : Path) : Except IoError FileTree :=
  match t.entryAt dir source, t.entryAt dir target with
  | .error e, _ => .error (if e = .fileExists then .busy else e)
  | .ok (_, _, none), _ => .error .noSuchFile
  | _, .error e => .error e
  | .ok (fromDir, fromName, some id), .ok (toDir, toName, old) =>
    let isDir := t.isDirectory id
    if id = root || [['.'], ['.', '.']].contains fromName || [['.'], ['.', '.']].contains toName then .error .busy
    else if endsWithSlash source && !isDir then .error .notADirectory
    else
      match t.changeFault? toDir, t.changeFault? fromDir with
      | some e, _ | none, some e => .error e
      | none, none =>
        if old = some id then .ok t
        else if isDir && (t.ancestors t.nodes.size toDir).contains id then .error .invalidArgument
        else if !isDir && endsWithSlash target then .error .notADirectory
        else
          match old with
          | none => .ok (t.moved id fromDir fromName toDir toName)
          | some other =>
            if isDir then
              if !t.isDirectory other then .error .notADirectory
              else if t.entries other ≠ [] then .error .notEmpty
              else .ok (t.moved id fromDir fromName toDir toName)
            else if t.isDirectory other then .error .isADirectory
            else .ok (t.moved id fromDir fromName toDir toName)

/-- Makes a directory and the missing ones above it. -/
def makeDirectories (t : FileTree) (dir : NodeId) (path : Path) (mode : Mode) :
    Except IoError FileTree :=
  ((pathParts path).foldl
    (fun sofar name =>
      match sofar with
      | .error e => .error e
      | .ok (t, dir) =>
        match t.resolveDirectory dir name with
        | .ok id => .ok (t, id)
        | .error .noSuchFile =>
          match t.makeDirectory dir name mode with
          | .error e => .error e
          | .ok t => .ok (t, t.nodes.size - 1)
        | .error e => .error e)
    (Except.ok (t, start dir path) : Except IoError (FileTree × NodeId))).map (·.1)

def directoryPart (path : Path) : Path := dropEndWhile (· != '/') path

/-- Puts a file at a path, with the directories above it. -/
def putFile (t : FileTree) (dir : NodeId) (path : Path) (content : FileContent)
    (executable : Bool) : Except IoError FileTree :=
  match t.makeDirectories dir (directoryPart path) 0o755 with
  | .error e => .error e
  | .ok t =>
    match t.openForWriting dir path 0o644 true with
    | .error e => .error e
    | .ok (t, id) => .ok ((t.setKind id (.file content)).setMode id (if executable then 0o755 else 0o644))

/-- Puts a symbolic link at a path, with the directories above it. -/
def putSymlink (t : FileTree) (dir : NodeId) (path target : Path) : Except IoError FileTree :=
  match t.makeDirectories dir (directoryPart path) 0o755 with
  | .error e => .error e
  | .ok t => t.makeSymlink dir path target

end FileTree

end LineShell.Machine
