import LineShell.Machine.Tools.Findings

/-!
# Searching lines

A program that finds the lines of files that one of some expressions is in.
-/

namespace LineShell.Machine.Tools

inductive Spelling where
  | basic
  | extended
  | fixed
  | perl
  deriving DecidableEq, Repr

inductive Directories where
  | read
  | skip
  | recurse
  deriving DecidableEq, Repr

/-- A text that is looked for, and the file and the line that it was read from. -/
structure Wanted where
  text : Octets
  origin : Option (Path × Nat) := none

/-- A pattern for the names of files, and whether only those that it matches are searched. -/
structure NameRule where
  isOnly : Bool
  pattern : Octets

namespace NameRule

/-- Whether a name is matched. On the command line, what follows a slash in it will do. -/
def accepts (isOperand : Bool) (name : Octets) (rule : NameRule) : Bool :=
  let holds := Pattern.matchesText (rule.pattern.map fun c => (c, false))
  holds name || (isOperand &&
    (List.range name.length).any fun n =>
      name[n]? = some '/' && name[n + 1]? != some '/' && holds (name.drop (n + 1)))

/-- Whether rules leave a file out: the last one that matches counts, and if there is none, the
opposite of the first. -/
def leaveOut (rules : List NameRule) (isOperand : Bool) (name : Octets) : Bool :=
  match rules.reverse.find? (accepts isOperand name) with
  | some rule => !rule.isOnly
  | none => rules.head?.any (·.isOnly)

end NameRule

structure Searching where
  finding : Finding := {}
  spelling : Option Spelling := none
  isWhole : Bool := false
  isWord : Bool := false
  wanted : Option (List Wanted) := none
  /-- Whether the names of files are shown, if that was said. -/
  names : Option Bool := none
  inputName : Octets := "(standard input)"
  isSilent : Bool := false
  isQuiet : Bool := false
  counts : Bool := false
  lists : Option Shown := none
  context : Option Nat := none
  directories : Directories := .read
  followsLinks : Bool := false
  fileRules : List NameRule := []
  directoryRules : List NameRule := []
  /-- The working directory is searched without having been named. -/
  isHere : Bool := false

def searchChoices : List Choice :=
  [⟨'G', "basic-regexp", .nothing⟩, ⟨'E', "extended-regexp", .nothing⟩,
    ⟨'F', "fixed-regexp", .nothing⟩, ⟨'F', "fixed-strings", .nothing⟩,
    ⟨'P', "perl-regexp", .nothing⟩, ⟨'A', "after-context", .value⟩,
    ⟨'B', "before-context", .value⟩, ⟨' ', "binary-files", .value⟩, ⟨'b', "byte-offset", .nothing⟩,
    ⟨'C', "context", .value⟩, ⟨' ', "color", .maybe⟩, ⟨' ', "colour", .maybe⟩,
    ⟨'c', "count", .nothing⟩, ⟨'D', "devices", .value⟩, ⟨'d', "directories", .value⟩,
    ⟨' ', "exclude", .value⟩, ⟨' ', "exclude-from", .value⟩, ⟨' ', "exclude-dir", .value⟩,
    ⟨'f', "file", .value⟩, ⟨'l', "files-with-matches", .nothing⟩,
    ⟨'L', "files-without-match", .nothing⟩, ⟨' ', "group-separator", .value⟩,
    ⟨' ', "include", .value⟩, ⟨'i', "ignore-case", .nothing⟩, ⟨' ', "no-ignore-case", .nothing⟩,
    ⟨'T', "initial-tab", .nothing⟩, ⟨' ', "label", .value⟩, ⟨' ', "line-buffered", .nothing⟩,
    ⟨'n', "line-number", .nothing⟩, ⟨'x', "line-regexp", .nothing⟩, ⟨'m', "max-count", .value⟩,
    ⟨'h', "no-filename", .nothing⟩, ⟨' ', "no-group-separator", .nothing⟩,
    ⟨'s', "no-messages", .nothing⟩, ⟨'Z', "null", .nothing⟩, ⟨'z', "null-data", .nothing⟩,
    ⟨'o', "only-matching", .nothing⟩, ⟨'q', "quiet", .nothing⟩, ⟨'r', "recursive", .nothing⟩,
    ⟨'R', "dereference-recursive", .nothing⟩, ⟨'e', "regexp", .value⟩,
    ⟨'v', "invert-match", .nothing⟩, ⟨'q', "silent", .nothing⟩, ⟨'a', "text", .nothing⟩,
    ⟨'U', "binary", .nothing⟩, ⟨'u', "unix-byte-offsets", .nothing⟩,
    ⟨'H', "with-filename", .nothing⟩, ⟨'w', "word-regexp", .nothing⟩, ⟨'X', "", .value⟩] ++
    letters "yI0123456789"

/-- Ends a search that was asked for in a wrong way. -/
def misuseSearch (code : Nat) : Act Nat := do
  let job ← get
  warn (line ("Usage: " ++ lastName job.name ++ " [OPTION]... PATTERNS [FILE]..."))
  warn (line ("Try '" ++ lastName job.name ++ " --help' for more information."))
  return code

/-- A step of reading options, which may refuse the search. -/
abbrev Noting := ExceptT Refusal Act

namespace Searching

def refusing {α : Type} (text : Octets) : Noting α := throw { text, code := 2 }

/-- The number of lines that a text says; a sign may be in front. -/
def amount? (text : Octets) : Option Int :=
  match text.dropWhile isWhiteByte with
  | '-' :: digits => (number? digits).map fun n => -(n : Int)
  | '+' :: digits => (number? digits).map fun n => (n : Int)
  | digits => (number? digits).map fun n => (n : Int)

/-- The number of lines around one that a text says. -/
def length (text : Octets) : Noting Nat :=
  match amount? text with
  | some (.ofNat n) => return n
  | _ => refusing (text ++ ": invalid context length argument")

/-- The search in another spelling. One spelling excludes the others. -/
def inSpelling (s : Searching) (spelling : Spelling) : Noting Searching :=
  if s.spelling.any (· != spelling) then refusing "conflicting matchers specified"
  else return { s with spelling }

def spelling? (name : Octets) : Option Spelling :=
  [(("grep" : Octets), Spelling.basic), ("egrep", .extended), ("fgrep", .fixed), ("awk", .extended),
    ("gawk", .extended), ("posixawk", .extended), ("perl", .perl)].lookup name

def want (s : Searching) (more : List Wanted) : Searching :=
  { s with wanted := some (s.wanted.getD [] ++ more) }

def find (s : Searching) (change : Finding → Finding) : Searching :=
  { s with finding := change s.finding }

/-- Whether a word that says when to colour asks for colours. -/
def asksForColours (value : Option Octets) : Bool :=
  value.any fun word => [("always" : Octets), "yes", "force"].contains word

/-- The lines of a file that an option names. -/
def linesFrom (path : Octets) : Noting (List Octets) := do
  match ← (readOperand path : Act (Except IoError Octets)) with
  | .ok data => return (linesOf data).map bareLine
  | .error e => refusing (path ++ ": " ++ Octets.ofString e.text)

def noteValue (s : Searching) (key : String) (value : Octets) : Noting Searching := do
  match key with
  | "A" => let n ← length value; return s.find ({ · with trailing := some n })
  | "B" => let n ← length value; return s.find ({ · with leading := some n })
  | "C" => let n ← length value; return { s with context := some n }
  | "e" => return s.want ((value.splitOn '\n').map fun text => { text })
  | "f" =>
    let texts ← linesFrom value
    let name : Octets := if value = ['-'] then s.inputName else value
    return s.want (texts.zipIdx.map fun (text, n) => { text, origin := some (name, n + 1) })
  | "m" =>
    match amount? value with
    | some n => return s.find ({ · with most := if n < 0 then none else some n.toNat })
    | none => refusing "invalid max count"
  | "X" =>
    match spelling? value with
    | some spelling => s.inSpelling spelling
    | none => refusing ("invalid matcher " ++ value)
  | "D" =>
    if value = "read" || value = "skip" then return s else refusing "unknown devices method"
  | "d" =>
    match meaningOf "--directories"
        [(["read"], Directories.read), (["recurse"], .recurse), (["skip"], .skip)] value with
    | .ok directories => return { s with directories }
    | .error r => throw r
  | "binary-files" =>
    match [(("binary" : Octets), NulTexts.mentioned), ("text", .asText),
        ("without-match", .skipped)].lookup value with
    | some nulTexts => return s.find ({ · with nulTexts })
    | none => refusing "unknown binary-files type"
  | "include" => return { s with fileRules := s.fileRules ++ [⟨true, value⟩] }
  | "exclude" => return { s with fileRules := s.fileRules ++ [⟨false, value⟩] }
  | "exclude-from" =>
    let patterns ← linesFrom value
    return { s with fileRules := s.fileRules ++ patterns.map fun text => ⟨false, text⟩ }
  | "exclude-dir" =>
    let rule : NameRule := ⟨false, withoutTrailingSlashes value⟩
    return { s with directoryRules := s.directoryRules ++ [rule] }
  | "group-separator" => return s.find ({ · with between := some value })
  | "label" => return { s with inputName := value }
  | _ => return s

def noteKey (s : Searching) (key : String) : Noting Searching := do
  match key with
  | "G" => s.inSpelling .basic
  | "E" => s.inSpelling .extended
  | "F" => s.inSpelling .fixed
  | "P" => s.inSpelling .perl
  | "i" | "y" => return s.find ({ · with foldsCase := true })
  | "no-ignore-case" => return s.find ({ · with foldsCase := false })
  | "v" => return s.find ({ · with isInverted := true })
  | "x" => return { s with isWhole := true }
  | "w" => return { s with isWord := true }
  | "c" => return { s with counts := true }
  | "l" => return { s with lists := some .names }
  | "L" => return { s with lists := some .otherNames }
  | "q" => return { s with isQuiet := true }
  | "o" => return s.find ({ · with shown := .parts })
  | "n" => return s.find ({ · with showsNumbers := true })
  | "b" => return s.find ({ · with showsOffsets := true })
  | "T" => return s.find ({ · with aligns := true })
  | "Z" => return s.find ({ · with endsNames := true })
  | "z" => return s.find ({ · with lineEnd := '\x00' })
  | "a" => return s.find ({ · with nulTexts := .asText })
  | "I" => return s.find ({ · with nulTexts := .skipped })
  | "no-group-separator" => return s.find ({ · with between := none })
  | "H" => return { s with names := some true }
  | "h" => return { s with names := some false }
  | "s" => return { s with isSilent := true }
  | "r" => return { s with directories := .recurse }
  | "R" => return { s with directories := .recurse, followsLinks := true }
  | "u" =>
    (complain "warning: --unix-byte-offsets (-u) is obsolete" : Act Unit)
    return s
  | _ => return s

def note (s : Searching) (option : String × Option Octets) : Noting Searching :=
  match option with
  | ("color", value) | ("colour", value) =>
    return s.find ({ · with isColoured := asksForColours value })
  | (key, some value) => s.noteValue key value
  | (key, none) => s.noteKey key

/-- Options in which digits that follow each other are one number of lines. -/
def withNumbers : (digits : Octets) → List (String × Option Octets) → List (String × Option Octets)
  | digits, [] => if digits.isEmpty then [] else [("C", some digits)]
  | digits, (key, value) :: rest =>
    match key.toList with
    | [c] =>
      if c.isDigit then withNumbers (digits ++ [c]) rest
      else (if digits.isEmpty then [] else [("C", some digits)]) ++
        (key, value) :: withNumbers [] rest
    | _ => (if digits.isEmpty then [] else [("C", some digits)]) ++
        (key, value) :: withNumbers [] rest

def ofOptions (options : List (String × Option Octets)) : Noting Searching :=
  (withNumbers [] options).foldlM note {}

def settled (s : Searching) : Searching :=
  let shown : Shown :=
    if s.isQuiet then .nothing
    else s.lists.getD (if s.counts then .count else s.finding.shown)
  s.find fun f => { f with
    shown
    leading := f.leading.orElse fun _ => s.context
    trailing := f.trailing.orElse fun _ => s.context }

/-- The expression for one text in the chosen spelling. -/
def reading (s : Searching) (text : Octets) : Except Search.Fault Search.Reading :=
  match s.spelling.getD .basic with
  | .fixed => .ok { expression := Search.ofText text }
  | .basic => Search.read false text
  | .extended | .perl => Search.read true text

/-- The expression for one of some expressions, where a line is to be matched as asked. -/
def whole (s : Searching) (found : List Search) : Option Search :=
  let any : Option Search :=
    match found with
    | [] => none
    | first :: rest => some (rest.foldl .either first)
  let notAfterWord : Search := .place fun before _ => !Search.isWordByte before
  let notBeforeWord : Search := .place fun _ after => !Search.isWordByte after
  any.map fun e =>
    if s.isWhole then .both Search.lineStart (.both e Search.lineEnd)
    else if s.isWord then .both notAfterWord (.both e notBeforeWord)
    else e

def distinctTexts (texts : List Wanted) : List Wanted :=
  texts.foldl
    (fun seen wanted => if seen.any (·.text = wanted.text) then seen else seen ++ [wanted]) []

def complainOfFaults (s : Searching) (texts : List Wanted) : Act Bool := do
  let mut isFaulty := false
  for wanted in texts do
    match s.reading wanted.text with
    | .ok _ => pure ()
    | .error fault =>
      let place : Octets :=
        match wanted.origin with
        | some (path, number) => path ++ ':' :: decimal number ++ ": "
        | none => []
      complain (place ++ fault.text)
      isFaulty := true
  return isFaulty

/-- Complains of what is strange about expressions, up to something that cannot be used. -/
def complainOfNotes : List Search.Note → Act Bool
  | [] => return false
  | .confusing :: _ => do
    complain Search.Note.confusing.text
    return true
  | note :: rest => do
    complain note.text
    complainOfNotes rest

/-- The search for the texts that were asked for, if they can be read. -/
def prepared (s : Searching) (texts : List Wanted) : Act (Option Searching) := do
  if ← s.complainOfFaults texts then return none
  else
    let readings := texts.filterMap fun wanted => (s.reading wanted.text).toOption
    if ← complainOfNotes (readings.flatMap (·.notes)) then return none
    else return some (s.find ({ · with wanted := s.whole (readings.map (·.expression)) }))

structure Result where
  found : Bool := false
  failed : Bool := false
  isLater : Bool := false

def isOver (s : Searching) (result : Result) : Bool := s.isQuiet && result.found

def failedAt (s : Searching) (name : Octets) (e : IoError) (result : Result) : Act Result := do
  unless s.isSilent do complainOf name e
  return { result with failed := true }

/-- Searches a text of a length that is known unless it comes from a pipe. -/
def searchText (s : Searching) (isNamed : Bool) (name : Octets) (isPipe : Bool) (data : Octets)
    (result : Result) : Act Result := do
  let f := s.finding
  let all := f.linesIn data
  let count := (all.filter (·.isFound)).length
  let label := if isNamed then some name else none
  let nameLine := f.painted "35" name ++ [if f.endsNames then '\x00' else '\n']
  let result := { result with found := result.found || 0 < count }
  match f.shown with
  | .nothing => return result
  | .names =>
    if 0 < count then say nameLine
    return result
  | .otherNames =>
    if count = 0 then say nameLine
    return result
  | .count =>
    say (((label.map fun name => f.nameBefore name ':').getD []) ++ line (decimal count))
    return result
  | .lines | .parts =>
    if 0 < count && f.hasNuls data then
      complain (name ++ ": binary file matches")
      return result
    else
      let width := f.fieldWidth (if isPipe then none else some data.length)
      say (f.linesShown label width result.isLater all)
      return { result with isLater := result.isLater || 0 < count }

/-- Whether lines of the file that the output leads to would be searched. -/
def searchesOutput (s : Searching) (isOutput : Bool) : Bool :=
  let f := s.finding
  isOutput && (f.shown = .lines || f.shown = .parts) && f.most.all (1 < ·)

/-- Refuses to search the file that the output leads to. -/
def failedAtOutput (s : Searching) (name : Octets) (result : Result) : Act Result := do
  unless s.isSilent do complain (name ++ ": input file is also the output")
  return { result with failed := true }

def searchFile (s : Searching) (isNamed : Bool) (name : Octets) (path : Path) (result : Result) :
    Act Result := do
  let job ← get
  if s.searchesOutput (job.isOutput path) then s.failedAtOutput name result
  else
    match ← readPath path with
    | .error e => s.failedAt name e result
    | .ok data => s.searchText isNamed name false data result

def searchInput (s : Searching) (isNamed : Bool) (result : Result) : Act Result := do
  let job ← get
  if s.searchesOutput job.readsOutput then s.failedAtOutput s.inputName result
  else
    match ← readRest 0 with
    | .error e => s.failedAt s.inputName e result
    | .ok data => s.searchText isNamed s.inputName job.isPiped data result

/-- Searches what is found in a directory, one after the other. -/
def searchEach (s : Searching) (search : Path → Result → Act Result) :
    List Path → Result → Act Result
  | [], result => return result
  | path :: rest, result => do
    if s.isOver result then return result
    else
      let result ← search path result
      searchEach s search rest result

/-- A directory that is read like a file fails, and nothing is found in it. -/
def readDirectory (s : Searching) (isNamed : Bool) (path : Path) (result : Result) :
    Act Result := do
  let result ← s.failedAt path .isADirectory result
  s.searchText isNamed path false [] result

def searchAt (s : Searching) (isNamed : Bool) : (depth : Nat) → (isOperand : Bool) → Path →
    Result → Act Result
  | 0, _, _, result => return result
  | depth + 1, isOperand, path, result => do
    let job ← get
    let name := if isOperand then path else lastName path
    let shownPath := if s.isHere && startsWith "./" path then path.drop 2 else path
    match job.files.resolve true job.dir path with
    | .error e => s.failedAt shownPath e result
    | .ok id =>
      if !job.files.isDirectory id then
        if NameRule.leaveOut s.fileRules isOperand name then return result
        else s.searchFile isNamed shownPath path result
      else if s.directories = .skip ||
          (!s.isHere && NameRule.leaveOut s.directoryRules isOperand name) then return result
      else if s.directories = .read then s.readDirectory isNamed path result
      else
        match job.files.namesAt job.dir path with
        | .error e => s.failedAt shownPath e result
        | .ok entries =>
          let inside := (sortedOctets (entries.map (·.1))).map (pathIn path)
          let followed := inside.filter fun path =>
            s.followsLinks || !job.files.isSymlinkAt job.dir path
          s.searchEach (searchAt s (isNamed || s.names != some false) depth false) followed result

def searchOperand (s : Searching) (isNamed : Bool) (operand : Path) (result : Result) :
    Act Result := do
  if operand = ['-'] then s.searchInput isNamed result
  else s.searchAt isNamed ((← get).files.nodes.size + 1) true operand result

/-- The search of a job; where nobody sees the output, nothing is shown. -/
def inJob (s : Searching) (job : Job) : Searching :=
  if job.discardsOutput then s.find ({ · with shown := .nothing }) else s

def run (s : Searching) (operands : List Octets) : Act Nat := do
  let isRecursive := s.directories = .recurse
  let s := { s.inJob (← get) with isHere := operands.isEmpty && isRecursive }
  let places :=
    if !operands.isEmpty then operands else if isRecursive then [['.']] else [['-']]
  let isNamed := s.names.getD (1 < operands.length)
  let result ← s.searchEach (s.searchOperand isNamed) places {}
  if result.failed && !s.isOver result then return 2
  else return if result.found then 0 else 1

end Searching

def refuseSearch (r : Refusal) : Act Nat := do
  complain r.text
  for text in r.details do warn (line text)
  if r.pointsToHelp then misuseSearch r.code else return r.code

/-- Prints the lines that match. -/
def grep (args : List Octets) : Act Nat := do
  match readFrom searchChoices false (args.length + 1) args with
  | .error text =>
    complain text
    misuseSearch 2
  | .ok given =>
    match ← (Searching.ofOptions given.set_).run with
    | .error r => refuseSearch r
    | .ok s =>
      let s := s.settled
      match s.wanted, given.operands with
      | none, [] => misuseSearch 2
      | wanted, operands =>
        let first := (operands.headD []).splitOn '\n'
        let texts := wanted.getD (first.map fun text => { text })
        let places := if wanted.isNone then operands.drop 1 else operands
        if s.finding.most = some 0 then return 1
        else
          match ← s.prepared (Searching.distinctTexts texts) with
          | none => return 2
          | some s => s.run places

/-- Prints the lines that match under one more option. -/
def grepWith (option : Octets) (args : List Octets) : Act Nat := do
  modify ({ · with name := "grep" })
  grep (option :: args)

end LineShell.Machine.Tools
