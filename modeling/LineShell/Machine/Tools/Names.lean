import LineShell.Machine.Tools.Basic

/-!
# Names of files

Programs that take paths apart, put them together, and follow links.
-/

namespace LineShell.Machine

def lastName (path : Path) : Path :=
  ((withoutTrailingSlashes path).reverse.takeWhile (· != '/')).reverse

def pathIn (dir name : Path) : Path :=
  if endsWithSlash dir then dir ++ name else dir ++ '/' :: name

namespace Tools

/-- The last name of a path; slashes alone stay one. -/
def baseName (path : Path) : Path :=
  if !path.isEmpty && path.all (· = '/') then ['/'] else lastName path

def withoutEnd (ending name : Octets) : Octets :=
  if name != ending && ending.isSuffixOf name then name.take (name.length - ending.length) else name

/-- Prints texts, each ended by a newline or a NUL. -/
def sayEach (withNul : Bool) (texts : List Octets) : Act Nat := do
  for text in texts do say (if withNul then text ++ ['\x00'] else line text)
  return 0

def basename (args : List Octets) : Act Nat :=
  withOptions [⟨'a', "multiple", .nothing⟩, ⟨'s', "suffix", .value⟩, ⟨'z', "zero", .nothing⟩] 1 args
    fun given => do
      let ending := (given.value? "s").getD []
      let print (ending : Octets) (paths : List Octets) : Act Nat :=
        sayEach (given.has "z") (paths.map fun path => withoutEnd ending (baseName path))
      match given.operands with
      | [] => misuse 1 "missing operand"
      | paths =>
        if given.has "a" || given.has "s" then print ending paths
        else
          match paths with
          | [path] => print [] [path]
          | [path, ending] => print ending [path]
          | _ :: _ :: extra :: _ => misuse 1 ("extra operand " ++ quotedWord extra)
          | [] => return 0

def directoryName (path : Path) : Path :=
  let before := dropEndWhile (· != '/') (withoutTrailingSlashes path)
  if before.isEmpty then (if isAbsolute path then ['/'] else ['.'])
  else
    let bare := withoutTrailingSlashes before
    if bare.isEmpty then ['/'] else bare

def dirname (args : List Octets) : Act Nat :=
  withOptions [⟨'z', "zero", .nothing⟩] 1 args fun given =>
    if given.operands.isEmpty then misuse 1 "missing operand"
    else sayEach (given.has "z") (given.operands.map directoryName)

def pwd (args : List Octets) : Act Nat :=
  withOptions [⟨'L', "logical", .nothing⟩, ⟨'P', "physical", .nothing⟩] 1 args fun given => do
    unless given.operands.isEmpty do complain "ignoring non-option arguments"
    let job ← get
    let named := (job.value? "PWD").filter fun path =>
      isAbsolute path && !((path.splitOn '/').any fun part => part = ['.'] || part = ['.', '.']) &&
        (job.files.resolve true job.dir path).toOption = some job.dir
    match named, given.last? ["L", "P"], job.files.pathOf job.dir with
    | some path, some "L", _ | _, _, some path =>
      say (line path)
      return 0
    | _, _, none =>
      complain "couldn't find directory entry in '..' with matching i-node"
      return 1

/-- How many names of a path have to exist. -/
inductive Existing where
  | all
  | allButLast
  | none
  deriving DecidableEq, Repr

/-- Follows a path by all its links, as far as there is something. Gives the names from the root, the
last first. -/
def canonicalNames (files : FileTree) (existing : Existing) :
    (fuel : Nat) → (dir : Option NodeId) → (sofar : List Path) → List Path →
    Except IoError (List Path)
  | 0, _, _, _ => .error .tooManyLinks
  | _, _, sofar, [] => .ok sofar
  | fuel + 1, dir, sofar, name :: rest =>
    let isLast := rest.all fun name => name = ['.']
    let missing (e : IoError) : Except IoError (List Path) :=
      if existing = .all || (existing = .allButLast && (!isLast || e != .noSuchFile)) then .error e
      else canonicalNames files existing fuel none (name :: sofar) rest
    if name = ['.'] then
      match dir.map files.isDirectory with
      | some false => .error .notADirectory
      | _ => canonicalNames files existing fuel dir sofar rest
    else if name = ['.', '.'] then
      let up := sofar.drop 1
      let path := if up.isEmpty then ['/'] else up.reverse.flatMap ('/' :: ·)
      canonicalNames files existing fuel
        ((files.resolve true FileTree.root path).toOption) up rest
    else
      match dir with
      | none => missing .noSuchFile
      | some dir =>
        match files.walk false 0 dir [name] with
        | .error e => missing e
        | .ok (.vacant _ _) => missing .noSuchFile
        | .ok (.node id) =>
          match files.kind? id with
          | some (.symlink target) =>
            if isAbsolute target then
              canonicalNames files existing fuel (some FileTree.root) []
                ((target.splitOn '/').filter (!·.isEmpty) ++ rest)
            else
              canonicalNames files existing fuel (some dir) sofar
                ((target.splitOn '/').filter (!·.isEmpty) ++ rest)
          | _ => canonicalNames files existing fuel (some id) (name :: sofar) rest

/-- The path from the root that a path leads to, without links. -/
def canonicalPath (job : Job) (existing : Existing) (path : Path) : Except IoError Path :=
  if path.isEmpty then .error .noSuchFile
  else
    let names := (path.splitOn '/').filter (!·.isEmpty)
    let names := if endsWithSlash path && existing != .none then names ++ [['.']] else names
    let before : Option (List Path) :=
      if isAbsolute path then some [] else job.files.namesTo job.files.nodes.size job.dir
    match before with
    | none => .error .noSuchFile
    | some before =>
      let start := if isAbsolute path then FileTree.root else job.dir
      (canonicalNames job.files existing (names.length + 2000) (some start) before names).map
        fun names => if names.isEmpty then ['/'] else names.reverse.flatMap ('/' :: ·)

/-- Prints where links lead, or paths without links. -/
def readlink (args : List Octets) : Act Nat :=
  withOptions
    [⟨'f', "canonicalize", .nothing⟩, ⟨'e', "canonicalize-existing", .nothing⟩,
      ⟨'m', "canonicalize-missing", .nothing⟩, ⟨'n', "no-newline", .nothing⟩,
      ⟨'q', "quiet", .nothing⟩, ⟨'s', "silent", .nothing⟩, ⟨'v', "verbose", .nothing⟩,
      ⟨'z', "zero", .nothing⟩] 1 args fun given => do
    if given.operands.isEmpty then misuse 1 "missing operand"
    else
      let bare := given.has "n" && given.operands.length = 1
      forEach given.operands fun path => do
        let job ← get
        let found : Except IoError Path :=
          match given.last? ["f", "e", "m"] with
          | some "f" => canonicalPath job .allButLast path
          | some "e" => canonicalPath job .all path
          | some _ => canonicalPath job .none path
          | none =>
            match job.files.resolve false job.dir path with
            | .error e => .error e
            | .ok id =>
              match job.files.kind? id with
              | some (.symlink target) => .ok target
              | _ => .error .invalidArgument
        match found with
        | .ok text =>
          say (if bare then text else if given.has "z" then text ++ ['\x00'] else line text)
          return 0
        | .error e =>
          if given.has "v" then complainOf (shownName path) e
          return 1

/-- Prints paths without links. -/
def realpath (args : List Octets) : Act Nat :=
  withOptions
    [⟨'e', "canonicalize-existing", .nothing⟩, ⟨'m', "canonicalize-missing", .nothing⟩,
      ⟨'q', "quiet", .nothing⟩, ⟨'z', "zero", .nothing⟩, ⟨'s', "strip", .nothing⟩,
      ⟨'s', "no-symlinks", .nothing⟩, ⟨'P', "physical", .nothing⟩, ⟨'L', "logical", .nothing⟩]
    1 args fun given => do
    if given.operands.isEmpty then misuse 1 "missing operand"
    else
      forEach given.operands fun path => do
        let job ← get
        let existing : Existing :=
          match given.last? ["e", "m"] with
          | some "e" => .all
          | some _ => .none
          | none => .allButLast
        match canonicalPath job existing path with
        | .ok text => sayEach (given.has "z") [text]
        | .error e =>
          unless given.has "q" do complainOf (shownName path) e
          return 1

end Tools

end LineShell.Machine
