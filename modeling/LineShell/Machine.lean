import LineShell.Host
import LineShell.Machine.Exec
import LineShell.Settings.File

/-!
# A machine in memory

A machine has files, an environment, the input that its programs share, and numbers for the
processes to come. It is a host for sessions: it resolves directories and runs programs.
-/

namespace LineShell

structure Machine where
  files : Machine.FileTree
  environment : Environment
  input : List UInt8
  nextPid : Nat

namespace Machine

def chdir (m : Machine) (dir : NodeId) (path : String) : Except IoError NodeId :=
  if path.toList.contains '\x00' then .error .nulInPath
  else m.files.enter dir (Octets.ofString path)

/-- The mode bits that files made by programs do not get. -/
def umask : Mode := 0o022

/-- What the next program starts with: the input, and both streams for what it writes. -/
def nextJob (m : Machine) (dir : NodeId) : Job :=
  { world :=
      { files := m.files
        channels := #[.input, .watched .output, .watched .error]
        input := Octets.ofBytes m.input, written := [], signals := [], nextPid := m.nextPid + 1 }
    name := [], dir, pid := m.nextPid, parents := [], umask, ignored := [], writeFault := none
    environment := m.environment.map fun (name, value) =>
      (Octets.ofString name, Octets.ofBytes value.bytes)
    descriptors := [(0, 0), (1, 1), (2, 2)] }

/-- The machine that a program leaves; the input has lost what was read. -/
def after (m : Machine) (world : World) : Machine :=
  { m with
    files := world.files
    input := m.input.drop (m.input.length - world.input.length)
    nextPid := world.nextPid }

/-- Runs a program to its end. -/
def launch (m : Machine) (dir : NodeId) (args : ArgumentVector) :
    Except IoError Child × Machine :=
  if args.tokens.any fun token => token.toList.contains '\x00' then (.error .nulInArgument, m)
  else
    match execute (m.nextJob dir) (args.tokens.map Octets.ofString) with
    | .error e => (.error e, m)
    | .ok ended =>
      let written := ended.world.written.reverse.map fun (stream, text) =>
        (stream, Octets.toBytes text)
      (.ok { pid := m.nextPid, written, waited := .ok ended.status }, m.after ended.world)

def host : Host NodeId Machine where
  chdir m dir path := (m.chdir dir path, m)
  launch := launch

def findSettings (m : Machine) (dir : NodeId) (path : String) : SettingsFile.Found :=
  if path.toList.contains '\x00' then .nothing
  else
    let path := Octets.ofString path
    match m.files.resolve true dir path with
    | .error _ => .nothing
    | .ok _ => .file ((m.files.readFile dir path).map Octets.toBytes)

/-- The entries of the readable directories of the search path. An empty one gives none. -/
def searchedEntries (m : Machine) (dir : NodeId) : List (List DirectoryEntry) :=
  match m.environment.get? "PATH" with
  | none => []
  | some path =>
    ((Octets.ofBytes path.bytes).splitOn ':').filterMap fun directory =>
      (m.files.list dir directory).toOption

/-- The home directory: a variable, or what is set down for the one user of the machine. -/
def home (m : Machine) : String :=
  match m.environment.get? "HOME" with
  | none | some ⟨[]⟩ => "/root"
  | some home => String.ofList (Text.Utf8.decodeLossy home.bytes)

def firstDirectories : List String :=
  ["/dev", "/etc", "/home", "/opt", "/proc", "/root", "/run", "/srv", "/sys", "/tmp", "/usr/bin",
    "/usr/lib", "/usr/local/bin", "/usr/sbin", "/var/tmp"]

def firstLinks : List (String × String) :=
  [("/bin", "usr/bin"), ("/lib", "usr/lib"), ("/sbin", "usr/sbin")]

def firstFiles : FileTree :=
  let top := FileTree.root
  let put (t : FileTree) (change : FileTree → Except IoError FileTree) : FileTree :=
    (change t).toOption.getD t
  let program (t : FileTree) (name : String) (tool : Tool) : FileTree :=
    put t (·.putFile top (Octets.ofString ("/usr/bin/" ++ name)) (.tool tool) true)
  let t := firstDirectories.foldl
    (fun t path => put t (·.makeDirectories top (Octets.ofString path) 0o755)) FileTree.empty
  let t := Tool.all.foldl (fun t tool => program t tool.name tool) t
  let t := program t "dash" .sh
  let t := firstLinks.foldl
    (fun t (path, target) =>
      put t (·.makeSymlink top (Octets.ofString path) (Octets.ofString target))) t
  put t (·.create top "/dev/null" fun _ => ⟨.null, 0o666⟩)

def withFile (m : Machine) (dir : NodeId) (path : String) (data : List UInt8) : Machine :=
  match m.files.putFile dir (Octets.ofString path) (.bytes (Octets.ofBytes data)) false with
  | .ok files => { m with files }
  | .error _ => m

def ofEnvironment (environment : Environment) : Machine :=
  { files := firstFiles, environment, input := [], nextPid := 1000 }

end Machine

end LineShell
