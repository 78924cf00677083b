import LineShell.Environment
import LineShell.Event
import LineShell.Machine.FileTree

/-!
# Jobs

All programs of a machine share a world: its files, what is open, the input, what has been written
and the signals on their way. A running program is a job: a world with a directory, variables and
descriptors of its own. What a program does is an action on its job.
-/

namespace LineShell.Machine

/-- What a descriptor leads to. Descriptors that were copied share it, and with it their place. -/
inductive Channel where
  | watched (stream : Stream)
  | input
  | null
  | file (id : NodeId) (offset : Nat) (reads writes appends : Bool)
  | pipe (data : Octets)
  deriving DecidableEq, Repr

abbrev ChannelId := Nat

/-- What the programs share. What reached the watched streams stands the last first, and the signals
are those that were sent to each process. -/
structure World where
  files : FileTree
  channels : Array Channel
  input : Octets
  written : List (Stream × Octets)
  signals : List (Nat × Nat)
  nextPid : Nat

namespace World

def addChannel (w : World) (c : Channel) : World × ChannelId :=
  ({ w with channels := w.channels.push c }, w.channels.size)

def unread (w : World) (id : ChannelId) : Except IoError Octets :=
  match w.channels[id]? with
  | some .input => .ok w.input
  | some .null => .ok []
  | some (.pipe data) => .ok data
  | some (.file node offset true _ _) =>
    if w.files.isDirectory node then .error .isADirectory
    else .ok ((w.files.content node).drop offset)
  | _ => .error .badDescriptor

/-- The world after bytes of a channel have been read. -/
def skip (w : World) (id : ChannelId) (count : Nat) : World :=
  match w.channels[id]? with
  | some .input => { w with input := w.input.drop count }
  | some (.pipe data) => { w with channels := w.channels.set! id (.pipe (data.drop count)) }
  | some (.file node offset reads writes appends) =>
    { w with channels := w.channels.set! id (.file node (offset + count) reads writes appends) }
  | _ => w

/-- Writes into a file at an offset; a gap is filled with NULs. -/
def overwrite (before : Octets) (offset : Nat) (data : Octets) : Octets :=
  before.take offset ++ List.replicate (offset - before.length) '\x00' ++ data ++
    before.drop (offset + data.length)

def write (w : World) (id : ChannelId) (data : Octets) : Except IoError World :=
  match w.channels[id]? with
  | some (.watched stream) =>
    .ok (if data.isEmpty then w else { w with written := (stream, data) :: w.written })
  | some .null => .ok w
  | some (.pipe before) => .ok { w with channels := w.channels.set! id (.pipe (before ++ data)) }
  | some (.file node offset reads true appends) =>
    let before := w.files.content node
    let place := if appends then before.length else offset
    .ok { w with
      files := w.files.setContent node (overwrite before place data)
      channels := w.channels.set! id (.file node (place + data.length) reads true appends) }
  | _ => .error .badDescriptor

end World

/-- A running program. Its parents wait for it, the nearest first; it started without the ignored
signals, and a fault may have kept it from writing on its output. -/
structure Job where
  world : World
  name : Octets
  dir : NodeId
  environment : List (Octets × Octets)
  descriptors : List (Nat × ChannelId)
  pid : Nat
  parents : List Nat
  umask : Mode
  ignored : List Nat
  writeFault : Option IoError

/-- What a program leaves when it ends. -/
structure Ended where
  world : World
  status : WaitStatus

abbrev Act := StateM Job

/-- How a file is started as a program: the job that it takes over, the path of the file, and its
arguments, of which the first is what it is called as. -/
abbrev Launcher := Job → Path → List Octets → Except IoError Ended

namespace Job

def channel? (job : Job) (fd : Nat) : Option ChannelId := job.descriptors.lookup fd

def value? (job : Job) (name : Octets) : Option Octets := job.environment.lookup name

/-- The job with a descriptor led to a channel, or closed. -/
def lead (job : Job) (fd : Nat) (target : Option ChannelId) : Job :=
  let others := job.descriptors.filter (·.1 != fd)
  match target with
  | some id => { job with descriptors := (fd, id) :: others }
  | none => { job with descriptors := others }

/-- What is left to be read on a descriptor. -/
def unread (job : Job) (fd : Nat) : Except IoError Octets :=
  match job.channel? fd with
  | some id => job.world.unread id
  | none => .error .badDescriptor

/-- The job after bytes of a descriptor have been read. -/
def skip (job : Job) (fd count : Nat) : Job :=
  match job.channel? fd with
  | some id => { job with world := job.world.skip id count }
  | none => job

def failToWrite (job : Job) (fd : Nat) (e : IoError) : Job :=
  if fd = 1 then { job with writeFault := some e } else job

def write (job : Job) (fd : Nat) (data : Octets) : Job :=
  if data.isEmpty then job
  else
    match job.channel? fd with
    | some id =>
      match job.world.write id data with
      | .ok world => { job with world }
      | .error e => job.failToWrite fd e
    | none => job.failToWrite fd .badDescriptor

abbrev files (job : Job) : FileTree := job.world.files

def withFiles (job : Job) (files : FileTree) : Job := { job with world := { job.world with files } }

def openFile (job : Job) (path : Path) (reads writes appends truncates creates : Bool) :
    Except IoError (Job × ChannelId) :=
  let opened : Except IoError (FileTree × NodeId) :=
    if creates then
      job.files.openForWriting job.dir path (Mode.newFile.masked job.umask) truncates
    else (job.files.openForReading job.dir path).map fun id => (job.files, id)
  match opened with
  | .error e => .error e
  | .ok (files, id) =>
    let channel : Channel :=
      if files.kind? id = some .null then .null else .file id 0 reads writes appends
    let (world, c) := { job.world with files }.addChannel channel
    .ok ({ job with world }, c)

/-- The file that a descriptor leads to, and the place in it. -/
def file? (job : Job) (fd : Nat) : Option (NodeId × Nat) :=
  match (job.channel? fd).bind (job.world.channels[·]?) with
  | some (.file id offset _ _ _) => some (id, offset)
  | _ => none

/-- Whether the output leads to the file at a path. -/
def isOutput (job : Job) (path : Path) : Bool :=
  match job.file? 1, job.files.resolve true job.dir path with
  | some (id, _), .ok other => id = other && !job.files.isDirectory id
  | _, _ => false

/-- Whether the input comes from the file that the output leads to. -/
def readsOutput (job : Job) : Bool :=
  match job.file? 0, job.file? 1 with
  | some (id, _), some (other, _) => id = other && !job.files.isDirectory id
  | _, _ => false

def discardsOutput (job : Job) : Bool :=
  (job.channel? 1).bind (job.world.channels[·]?) = some .null

/-- Whether the input comes from another program. -/
def isPiped (job : Job) : Bool :=
  match (job.channel? 0).bind (job.world.channels[·]?) with
  | some (.pipe _) | some .input => true
  | _ => false

def child (job : Job) : Job :=
  { job with
    pid := job.world.nextPid
    parents := job.pid :: job.parents
    writeFault := none
    world := { job.world with nextPid := job.world.nextPid + 1 } }

end Job

def say (text : Octets) : Act Unit := modify (·.write 1 text)

/-- Prints on the error stream. -/
def warn (text : Octets) : Act Unit := modify (·.write 2 text)

def readRest (fd : Nat) : Act (Except IoError Octets) := do
  let job ← get
  match job.unread fd with
  | .ok data =>
    set (job.skip fd data.length)
    return .ok data
  | .error e => return .error e

def readPath (path : Path) : Act (Except IoError Octets) := do
  let job ← get
  return job.files.readFile job.dir path

def changeFiles (change : FileTree → Except IoError FileTree) : Act (Except IoError Unit) := do
  let job ← get
  match change job.files with
  | .ok files =>
    set (job.withFiles files)
    return .ok ()
  | .error e => return .error e

end LineShell.Machine
