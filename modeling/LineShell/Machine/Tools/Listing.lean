import LineShell.Machine.Columns
import LineShell.Machine.Numeral
import LineShell.Machine.Pattern
import LineShell.Machine.Tools.Directories
import LineShell.Machine.VersionOrder

/-!
# Listing directories

Files among the operands come first, then the directories, each as a block of names. Names are in
the order of their bytes, one on a line, unless the options say otherwise.
-/

namespace LineShell.Machine.Tools

/-- How the names of a block are set. -/
inductive Layout where
  | single
  | commas
  | across
  | down
  deriving DecidableEq, Repr

/-- What the names of a block are ordered by. -/
inductive EntryOrder where
  | name
  | nothing
  | size
  | extension
  | version
  | width
  deriving DecidableEq, Repr

/-- Which names get a sign of what has them. -/
inductive Signs where
  | nothing
  | directories
  | specialFiles
  | everything
  deriving DecidableEq, Repr

inductive NameStyle where
  | literal
  | escaped
  | inDoubleQuotes
  | inQuotes
  | forCommandLine
  | quotedForCommandLine
  deriving DecidableEq, Repr

/-- Which names that start with a point are shown. -/
inductive HiddenNames where
  | nothing
  | allButDots
  | everything
  deriving DecidableEq, Repr

inductive Follows where
  | nothing
  | operandsToDirectories
  | operands
  | everything
  deriving DecidableEq, Repr

structure Listing where
  layout : Layout := .single
  order : EntryOrder := .name
  isReversed : Bool := false
  directoriesFirst : Bool := false
  hidden : HiddenNames := .nothing
  ignored : List Octets := []
  /-- The names that match one of these are left out unless hidden ones are shown. -/
  passedOver : List Octets := []
  ignoresBackups : Bool := false
  signs : Signs := .nothing
  style : NameStyle := .literal
  marksUnprinted : Bool := false
  isColored : Bool := false
  isRecursive : Bool := false
  isFlat : Bool := false
  isLong : Bool := false
  follows : Option Follows := none
  limit : Option Nat := none
  tabStop : Nat := 8
  ending : Char := '\n'

namespace Listing

def measure (text what : Octets) : Except Refusal Nat :=
  let n := Numeral.read 0 text
  if n.found && n.rest.isEmpty && !n.negative then .ok n.magnitude
  else .error { text := "invalid " ++ what ++ ": " ++ quotedWord text, code := 2 }

/-- The words that say when something is done; nobody watches the output. -/
def occasions : List (List String × Bool) :=
  [(["always", "yes", "force"], true), (["never", "no", "none"], false),
    (["auto", "tty", "if-tty"], false)]

/-- The words for layouts, and whether they are long. -/
def layouts : List (List String × (Layout × Bool)) :=
  [(["verbose", "long"], (.single, true)), (["commas"], (.commas, false)),
    (["horizontal", "across"], (.across, false)), (["vertical"], (.down, false)),
    (["single-column"], (.single, false))]

def orders : List (List String × EntryOrder) :=
  [(["none"], .nothing), (["time"], .name), (["size"], .size), (["extension"], .extension),
    (["version"], .version), (["width"], .width)]

def signStyles : List (List String × Signs) :=
  [(["none"], .nothing), (["slash"], .directories), (["file-type"], .specialFiles),
    (["classify"], .everything)]

def nameStyles : List (List String × NameStyle) :=
  [(["literal"], .literal), (["shell"], .forCommandLine), (["shell-always"], .quotedForCommandLine),
    (["shell-escape"], .forCommandLine), (["shell-escape-always"], .quotedForCommandLine),
    (["c"], .inDoubleQuotes), (["c-maybe"], .inDoubleQuotes), (["escape"], .escaped),
    (["locale"], .inQuotes), (["clocale"], .inDoubleQuotes)]

def times : List (List String × Unit) :=
  [(["atime", "access", "use"], ()), (["ctime", "status"], ()), (["mtime", "modification"], ()),
    (["birth", "creation"], ())]

def withOption (l : Listing) (key : String) (value : Option Octets) : Except Refusal Listing :=
  let word := value.getD []
  match key with
  | "a" => .ok { l with hidden := .everything }
  | "A" => .ok { l with hidden := .allButDots }
  | "b" => .ok { l with style := .escaped }
  | "B" => .ok { l with ignoresBackups := true }
  | "C" => .ok { l with layout := .down, isLong := false }
  | "d" => .ok { l with isFlat := true }
  | "f" =>
    .ok { l with hidden := .everything, order := .nothing, isLong := false, isColored := false }
  | "F" =>
    match value with
    | none => .ok { l with signs := .everything }
    | some word =>
      (meaningOf "--classify" occasions word).map fun always =>
        if always then { l with signs := .everything } else l
  | "g" | "l" | "n" | "o" | "full-time" => .ok { l with layout := .single, isLong := true }
  | "H" => .ok { l with follows := some .operands }
  | "I" => .ok { l with ignored := l.ignored ++ [word] }
  | "L" => .ok { l with follows := some .everything }
  | "m" => .ok { l with layout := .commas, isLong := false }
  | "N" => .ok { l with style := .literal }
  | "p" => .ok { l with signs := .directories }
  | "q" => .ok { l with marksUnprinted := true }
  | "Q" => .ok { l with style := .inDoubleQuotes }
  | "r" => .ok { l with isReversed := true }
  | "R" => .ok { l with isRecursive := true }
  | "S" => .ok { l with order := .size }
  | "t" => .ok { l with order := .name }
  | "T" => (measure word "tab size").map ({ l with tabStop := · })
  | "U" => .ok { l with order := .nothing }
  | "v" => .ok { l with order := .version }
  | "w" => (measure word "line width").map ({ l with limit := some · })
  | "x" => .ok { l with layout := .across, isLong := false }
  | "X" => .ok { l with order := .extension }
  | "1" => .ok { l with layout := .single }
  | "color" =>
    match value with
    | none => .ok { l with isColored := true }
    | some word => (meaningOf "--color" occasions word).map ({ l with isColored := · })
  | "dereference-command-line-symlink-to-dir" =>
    .ok { l with follows := some .operandsToDirectories }
  | "file-type" => .ok { l with signs := .specialFiles }
  | "format" =>
    (meaningOf "--format" layouts word).map fun (layout, isLong) => { l with layout, isLong }
  | "group-directories-first" => .ok { l with directoriesFirst := true }
  | "hide" => .ok { l with passedOver := l.passedOver ++ [word] }
  | "hyperlink" =>
    match value with
    | none => .ok l
    | some word => (meaningOf "--hyperlink" occasions word).map fun _ => l
  | "indicator-style" =>
    (meaningOf "--indicator-style" signStyles word).map ({ l with signs := · })
  | "quoting-style" => (meaningOf "--quoting-style" nameStyles word).map ({ l with style := · })
  | "show-control-chars" => .ok { l with marksUnprinted := false }
  | "sort" => (meaningOf "--sort" orders word).map ({ l with order := · })
  | "time" => (meaningOf "--time" times word).map fun () => l
  | "zero" =>
    .ok { l with
      ending := '\x00', layout := .single, style := .literal, marksUnprinted := false
      isColored := false }
  | _ => .ok l

/-- The listing that options ask for, in their order. -/
def ofOptions (set : List (String × Option Octets)) : Except Refusal Listing :=
  set.foldlM (fun l (key, value) => withOption l key value) {}

/-- Which links are followed if no option says so. -/
def followed (l : Listing) : Follows :=
  l.follows.getD
    (if l.isFlat || l.signs = .everything || l.isLong then .nothing else .operandsToDirectories)

def nameOf (l : Listing) (name : Path) : Octets :=
  match l.style with
  | .literal => if l.marksUnprinted then name.map fun c => if isPrinted c then c else '?' else name
  | .escaped =>
    name.flatMap fun c =>
      if c = ' ' || c = '\\' then ['\\', c] else if isPrinted c then [c] else nameEscape c
  | .inDoubleQuotes =>
    '"' :: (name.flatMap fun c =>
      if c = '"' || c = '\\' then ['\\', c] else if isPrinted c then [c] else nameEscape c) ++ ['"']
  | .inQuotes => quotedWord name
  | .forCommandLine => shownName name
  | .quotedForCommandLine => quotedName name

/-- A name of a block with the node that has it. -/
structure Entry where
  dir : NodeId
  name : Path
  id : NodeId
  isKnown : Bool := true

def sign (l : Listing) (files : FileTree) (entry : Entry) : Octets :=
  match files.kindOf entry.id with
  | .directory => if l.signs = .nothing then [] else ['/']
  | .symlink => if l.signs = .specialFiles || l.signs = .everything then ['@'] else []
  | .file =>
    if l.signs = .everything && entry.isKnown && files.mode entry.id &&& 0o111 ≠ 0 then ['*'] else []
  | .other => []

def colour? (files : FileTree) (entry : Entry) : Option Octets :=
  let mode := files.mode entry.id
  match files.kindOf entry.id with
  | .directory =>
    some (
      if mode.testBit 9 && mode.testBit 1 then "30;42"
      else if mode.testBit 1 then "34;42"
      else if mode.testBit 9 then "37;44"
      else "01;34")
  | .symlink => some "01;36"
  | .file =>
    if !entry.isKnown then none
    else if mode.testBit 11 then some "37;41"
    else if mode.testBit 10 then some "30;43"
    else if mode &&& 0o111 ≠ 0 then some "01;32"
    else none
  | .other => some "01;33"

/-- An entry as it is shown, and the room that it takes. -/
def cell (l : Listing) (files : FileTree) (entry : Entry) : Cell :=
  let name := l.nameOf entry.name
  let sign := l.sign files entry
  let plain := Cell.ofText (name ++ sign)
  match if l.isColored then colour? files entry else none with
  | none => plain
  | some colour => { plain with text := "\x1b[" ++ colour ++ 'm' :: name ++ "\x1b[0m" ++ sign }

def size (files : FileTree) (id : NodeId) : Nat :=
  match files.kind? id with
  | some (.symlink target) => target.length
  | some (.directory _ _) => 4096
  | _ => (files.content id).length

def extension (name : Path) : Path :=
  if name.contains '.' then name.drop ((dropEndWhile (· != '.') name).length - 1) else []

def sorted (l : Listing) (files : FileTree) (entries : List Entry) : List Entry :=
  let byName := entries.mergeSort fun x y => notAfter x.name y.name
  let turned (entries : List Entry) := if l.isReversed then entries.reverse else entries
  let sorted :=
    match l.order with
    | .name => turned byName
    | .nothing => entries
    | .size => turned (byName.mergeSort fun x y => size files y.id ≤ size files x.id)
    | .extension =>
      turned (byName.mergeSort fun x y => notAfter (extension x.name) (extension y.name))
    | .version => turned (entries.mergeSort fun x y => VersionOrder.notAfter x.name y.name)
    | .width =>
      let width (entry : Entry) := (Cell.ofText (l.nameOf entry.name)).width
      turned (byName.mergeSort fun x y => width x ≤ width y)
  let leadsToDirectory (entry : Entry) : Bool :=
    (files.resolveDirectory entry.dir entry.name).isOk
  if l.directoriesFirst then
    sorted.filter leadsToDirectory ++ sorted.filter fun entry => !leadsToDirectory entry
  else sorted

def text (l : Listing) (files : FileTree) (entries : List Entry) : Octets :=
  let cells := (l.sorted files entries).map (l.cell files)
  let page : Page := {
    limit := l.limit.getD 80, tabStop := if l.isColored then 0 else l.tabStop, ending := [l.ending] }
  match l.layout with
  | .single => cells.flatMap fun cell => cell.text ++ [l.ending]
  | .commas => page.separated [','] cells
  | .across => page.inColumns false cells
  | .down => page.inColumns true cells

def shows (l : Listing) (name : Path) : Bool :=
  let isOneOf (patterns : List Octets) := patterns.any fun pattern =>
    Pattern.matchesText (pattern.map fun c => (c, false)) name
  let isBackup := l.ignoresBackups && name.getLast? = some '~'
  let isPassedOver := l.hidden = .nothing && (name.head? = some '.' || isOneOf l.passedOver)
  !isPassedOver && !isOneOf l.ignored && !isBackup

def looksAt (l : Listing) (kind : EntryKind) : Bool :=
  l.order = .size || l.isLong ||
    (l.followed = .everything && kind = .symlink &&
      (l.signs != .nothing || l.isRecursive || l.directoriesFirst || l.isColored)) ||
    (kind = .file && (l.signs = .everything || l.isColored)) ||
    (kind = .directory && l.isColored)

/-- A name in a directory as it is listed, and what kept it from being looked at. -/
def entryOf (l : Listing) (files : FileTree) (dir : NodeId) (name : Path) (id : NodeId) :
    Entry × Option IoError :=
  if !l.looksAt (files.kindOf id) then (⟨dir, name, id, true⟩, none)
  else
    match files.resolve (l.followed = .everything) dir name with
    | .ok id => (⟨dir, name, id, true⟩, none)
    | .error e => (⟨dir, name, id, false⟩, some e)

/-- The names of a directory that are shown, with itself and the one above it. -/
def entries (l : Listing) (files : FileTree) (id : NodeId) : List (Entry × Option IoError) :=
  let dots : List (Path × NodeId) :=
    if l.hidden = .everything && files.isLinked id then
      match files.kind? id with
      | some (.directory parent _) => [(['.'], id), (['.', '.'], parent)]
      | _ => []
    else []
  (dots ++ (files.entries id).filter fun (name, _) => l.shows name).map fun (name, child) =>
    l.entryOf files id name child

/-- What comes of a directory. -/
inductive Outcome where
  | names (text : Octets) (faults : List (Path × IoError))
  | unreadable
  | repeated

structure Block where
  path : Path
  isOperand : Bool
  outcome : Outcome

/-- The blocks of a directory and of those below it, down to a depth. -/
def blocks (l : Listing) (files : FileTree) : (depth : Nat) → (above : List NodeId) → Path → NodeId →
    List Block
  | 0, _, _, _ => []
  | depth + 1, above, path, id =>
    let block (outcome : Outcome) : Block := ⟨path, above.isEmpty, outcome⟩
    let isReached : Bool :=
      match above with
      | [] => true
      | dir :: _ => (files.mode dir).mayExecute
    if !isReached || !(files.mode id).mayRead then [block .unreadable]
    else if above.contains id then [block .repeated]
    else
      let found := l.entries files id
      let shown := found.map (·.1)
      let faults := found.filterMap fun (entry, fault) =>
        fault.map fun e => (if path = ['.'] then entry.name else pathIn path entry.name, e)
      let below :=
        if l.isRecursive then
          (l.sorted files (shown.filter fun entry =>
            files.isDirectory entry.id && entry.name != ['.'] && entry.name != ['.', '.'])).flatMap
              fun entry => l.blocks files depth (id :: above) (pathIn path entry.name) entry.id
        else []
      block (.names (l.text files shown) faults) :: below

end Listing

def listingChoices : List Choice :=
  [⟨'a', "all", .nothing⟩, ⟨'b', "escape", .nothing⟩, ⟨'d', "directory", .nothing⟩,
    ⟨'D', "dired", .nothing⟩, ⟨' ', "full-time", .nothing⟩,
    ⟨' ', "group-directories-first", .nothing⟩, ⟨'h', "human-readable", .nothing⟩,
    ⟨'i', "inode", .nothing⟩, ⟨'k', "kibibytes", .nothing⟩, ⟨'n', "numeric-uid-gid", .nothing⟩,
    ⟨'G', "no-group", .nothing⟩, ⟨'q', "hide-control-chars", .nothing⟩, ⟨'r', "reverse", .nothing⟩,
    ⟨'s', "size", .nothing⟩, ⟨'w', "width", .value⟩, ⟨'A', "almost-all", .nothing⟩,
    ⟨'B', "ignore-backups", .nothing⟩, ⟨'F', "classify", .maybe⟩, ⟨' ', "file-type", .nothing⟩,
    ⟨' ', "si", .nothing⟩, ⟨'H', "dereference-command-line", .nothing⟩,
    ⟨' ', "dereference-command-line-symlink-to-dir", .nothing⟩, ⟨' ', "hide", .value⟩,
    ⟨'I', "ignore", .value⟩, ⟨' ', "indicator-style", .value⟩, ⟨'L', "dereference", .nothing⟩,
    ⟨'N', "literal", .nothing⟩, ⟨'Q', "quote-name", .nothing⟩, ⟨' ', "quoting-style", .value⟩,
    ⟨'R', "recursive", .nothing⟩, ⟨' ', "format", .value⟩, ⟨' ', "show-control-chars", .nothing⟩,
    ⟨' ', "sort", .value⟩, ⟨'T', "tabsize", .value⟩, ⟨' ', "time", .value⟩,
    ⟨' ', "time-style", .value⟩, ⟨' ', "zero", .nothing⟩, ⟨' ', "color", .maybe⟩,
    ⟨' ', "hyperlink", .maybe⟩, ⟨' ', "block-size", .value⟩, ⟨'Z', "context", .nothing⟩,
    ⟨' ', "author", .nothing⟩] ++ letters "1cCfglmoptuUSvxX"

def listed (l : Listing) (job : Job) (path : Path) : Except IoError NodeId :=
  match l.followed with
  | .operands | .everything => job.files.resolve true job.dir path
  | .nothing => job.files.resolve false job.dir path
  | .operandsToDirectories =>
    match job.files.resolve false job.dir path with
    | .error e => .error e
    | .ok id => .ok ((job.files.resolveDirectory job.dir path).toOption.getD id)

def colourTerminals : List String :=
  ["Eterm", "ansi", "*color*", "con[0-9]*x[0-9]*", "cons25", "console", "cygwin", "*direct*",
    "dtterm", "gnome", "hurd", "jfbterm", "konsole", "kterm", "linux", "linux-c", "mlterm", "putty",
    "rxvt*", "screen*", "st", "terminator", "tmux*", "vt100", "xterm*"]

def admitsColours (job : Job) : Bool :=
  let isSet (name : String) : Bool := (job.value? (Octets.ofString name)).any (!·.isEmpty)
  isSet "LS_COLORS" || isSet "COLORTERM" ||
    (job.value? "TERM").any fun terminal => colourTerminals.any fun pattern =>
      Pattern.matchesText (pattern.toList.map fun c => (c, false)) terminal

/-- The listing with the width of lines that the environment says, if it matters. -/
def withLineWidth (l : Listing) : Act Listing := do
  match l.limit, ((← get).value? "COLUMNS").filter (!·.isEmpty) with
  | none, some text =>
    match Listing.measure text [] with
    | .ok limit => return { l with limit := some limit }
    | .error _ =>
      if l.layout != .single then
        complain ("ignoring invalid width in environment variable COLUMNS: " ++ quotedWord text)
      return l
  | _, _ => return l

def listAll (l : Listing) (operands : List Path) : Act Nat := do
  let job ← get
  let mut files : List Listing.Entry := []
  let mut directories : List Listing.Entry := []
  let mut code := 0
  for path in operands do
    match listed l job path with
    | .error e =>
      complainOf ("cannot access " ++ quotedName path) e
      code := 2
    | .ok id =>
      let entry : Listing.Entry := { dir := job.dir, name := path, id }
      if job.files.isDirectory id && !l.isFlat then directories := entry :: directories
      else files := entry :: files
  let blocks := (l.sorted job.files directories.reverse).flatMap fun entry =>
    l.blocks job.files (job.files.nodes.size + 1) [] entry.name entry.id
  let isTitled := l.isRecursive || operands.length != 1
  let mut texts : List Octets := [l.text job.files files.reverse]
  let mut isFirst := files.isEmpty
  for block in blocks do
    match block.outcome with
    | .unreadable =>
      complainOf ("cannot open directory " ++ quotedName block.path) .permissionDenied
      code := max code (if block.isOperand then 2 else 1)
    | .repeated =>
      complain (shownName block.path ++ ": not listing already-listed directory")
      code := 2
    | .names text faults =>
      for (path, e) in faults do
        complainOf ("cannot access " ++ quotedName path) e
        code := max code 1
      unless isFirst do texts := ['\n'] :: texts
      if isTitled then texts := line (l.nameOf block.path ++ [':']) :: texts
      texts := text :: texts
      isFirst := false
  let output := texts.reverse.flatten
  say (if l.isColored && output.contains '\x1b' then withReset output else output)
  return code
where
  /-- An output with colours begins them with a return to no colour. -/
  withReset (output : Octets) : Octets :=
    let before := output.takeWhile (· != '\x1b')
    before ++ "\x1b[0m" ++ output.drop before.length

def ls (args : List Octets) : Act Nat :=
  withOptions listingChoices 2 args fun given => do
    match Listing.ofOptions given.set_ with
    | .error refusal => refusal.answer
    | .ok l =>
      let l := { l with isColored := l.isColored && admitsColours (← get) }
      listAll (← withLineWidth l) (if given.operands.isEmpty then [['.']] else given.operands)

end LineShell.Machine.Tools
