import LineShell.Machine.Numeral
import LineShell.Machine.Tools.Basic

/-!
# Lines

Programs that count the lines of files, number and turn them, and pass them on.
-/

namespace LineShell.Machine.Tools

structure Counts where
  lines : Nat
  words : Nat
  bytes : Nat
  longest : Nat

def countsOf (text : Octets) : Counts :=
  let wordStep (state : Nat × Bool) (c : Char) : Nat × Bool :=
    if isWhiteByte c then (state.1, false)
    else if isPrinted c then (if state.2 then state.1 else state.1 + 1, true)
    else state
  let widthStep (state : Nat × Nat) (c : Char) : Nat × Nat :=
    if c = '\n' || c = '\r' || c = '\x0c' then (max state.1 state.2, 0)
    else if c = '\t' then (state.1, (state.2 / 8 + 1) * 8)
    else if isPrinted c then (state.1, state.2 + 1)
    else state
  let widths := text.foldl widthStep (0, 0)
  { lines := text.count '\n', words := (text.foldl wordStep (0, false)).1, bytes := text.length
    longest := max widths.1 widths.2 }

/-- What is known before about the length of a file: nothing of one that is missing, `none` of one
that has no length. -/
def lengthAhead? (job : Job) (path : Path) : Option (Option Nat) :=
  let ofNode (id : NodeId) : Option Nat :=
    if job.files.kindOf id = .file then some (job.files.content id).length else none
  if path = ['-'] then
    (job.channel? 0).map fun id =>
      match (job.world.channels[id]? : Option Channel) with
      | some (.file node ..) => ofNode node
      | _ => none
  else (job.files.resolve true job.dir path).toOption.map ofNode

def countWidth (job : Job) (paths : List Path) : Nat :=
  let lengths := paths.map (lengthAhead? job)
  match lengths with
  | [] | none :: _ => 1
  | _ =>
    let known := lengths.filterMap id
    let total := known.foldl (fun sum length => sum + length.getD 0) 0
    max (if known.any Option.isNone then 7 else 1) (decimal total).length

/-- Counts the lines, words and bytes of files. -/
def wc (args : List Octets) : Act Nat :=
  withOptions
    [⟨'c', "bytes", .nothing⟩, ⟨'m', "chars", .nothing⟩, ⟨'l', "lines", .nothing⟩,
      ⟨'w', "words", .nothing⟩, ⟨'L', "max-line-length", .nothing⟩] 1 args fun given => do
    let all := !(["c", "m", "l", "w", "L"].any given.has)
    let paths := if given.operands.isEmpty then [['-']] else given.operands
    let chosen (c : Counts) : List Nat :=
      (if all || given.has "l" then [c.lines] else []) ++
        (if all || given.has "w" then [c.words] else []) ++
        (if given.has "m" then [c.bytes] else []) ++
        (if all || given.has "c" then [c.bytes] else []) ++
        (if given.has "L" then [c.longest] else [])
    let job ← get
    let isSingle := paths.length = 1 && (chosen ⟨0, 0, 0, 0⟩).length = 1
    let width : Nat := if isSingle then 1 else countWidth job paths
    let show_ (numbers : List Nat) (name : Octets) : Act Unit :=
      say (line (spaced (numbers.map fun n => padded width true ' ' (decimal n)) ++
        (if name.isEmpty then [] else ' ' :: name)))
    let mut total : Counts := ⟨0, 0, 0, 0⟩
    let mut code := 0
    for path in paths do
      let job ← get
      let isDirectory := path != ['-'] && job.files.isDirectoryAt job.dir path
      match ← (if path.isEmpty then pure (.error .noSuchFile) else readOperand path) with
      | .error e =>
        if path.isEmpty then complain "invalid zero-length file name"
        else
          complainOf
            (if given.operands.isEmpty then shownName "standard input" else shownName path) e
        code := 1
        if isDirectory || path = ['-'] then
          show_ (chosen ⟨0, 0, 0, 0⟩) (if given.operands.isEmpty then [] else path)
      | .ok data =>
        let c := countsOf data
        total := ⟨total.lines + c.lines, total.words + c.words, total.bytes + c.bytes,
          max total.longest c.longest⟩
        show_ (chosen c) (if given.operands.isEmpty then [] else path)
    if 1 < paths.length then show_ (chosen total) "total"
    if paths.contains ['-'] && ((← get).channel? 0).isNone then
      complainOf ['-'] .badDescriptor
      code := 1
    return code

/-- Prints the lines of files in reverse order. -/
def tac (args : List Octets) : Act Nat :=
  withOptions [⟨'b', "before", .nothing⟩, ⟨'r', "regex", .nothing⟩, ⟨'s', "separator", .value⟩] 1
    args fun given =>
    forEach (if given.operands.isEmpty then [['-']] else given.operands) fun path => do
      match ← readOperand path with
      | .ok data =>
        say (linesOf data).reverse.flatten
        return 0
      | .error e =>
        if e = .isADirectory then complainOf (shownName path ++ ": read error") e
        else complainOf ("failed to open " ++ quotedName path ++ " for reading") e
        return 1

/-- Prints lines with their bytes in reverse order. -/
def rev (args : List Octets) : Act Nat :=
  forEach (if args.isEmpty then [['-']] else args) fun path => do
    match ← (if args.isEmpty then readRest 0 else readPath path) with
    | .ok data =>
      say ((linesOf data).flatMap fun text =>
        let bare := bareLine text
        bare.reverse ++ text.drop bare.length)
      return 0
    | .error e =>
      complainOf ("cannot open " ++ path) e
      return 1

/-- Prints its input, and writes it into files. -/
def tee (args : List Octets) : Act Nat :=
  withOptions
    [⟨'a', "append", .nothing⟩, ⟨'i', "ignore-interrupts", .nothing⟩, ⟨'p', "", .nothing⟩] 1 args
    fun given => do
    let mut targets : List ChannelId := []
    let mut code := 0
    for path in given.operands do
      let job ← get
      match job.openFile path false true (given.has "a") (!given.has "a") true with
      | .ok (job, id) =>
        set job
        targets := id :: targets
      | .error e =>
        complainOf (shownName path) e
        code := 1
    match ← readRest 0 with
    | .error e =>
      complainOf "read error" e
      return 1
    | .ok data =>
      say data
      for id in targets do
        modify fun job =>
          match job.world.write id data with
          | .ok world => { job with world }
          | .error _ => job
      return code

def nl (args : List Octets) : Act Nat :=
  withOptions
    [⟨'b', "body-numbering", .value⟩, ⟨'i', "line-increment", .value⟩,
      ⟨'n', "number-format", .value⟩, ⟨'s', "number-separator", .value⟩,
      ⟨'v', "starting-line-number", .value⟩, ⟨'w', "number-width", .value⟩,
      ⟨'d', "section-delimiter", .value⟩, ⟨'f', "footer-numbering", .value⟩,
      ⟨'h', "header-numbering", .value⟩, ⟨'l', "join-blank-lines", .value⟩,
      ⟨'p', "no-renumber", .nothing⟩] 1 args fun given => do
    let numberOf (key : String) (default_ : Int) : Int :=
      ((given.value? key).bind (integer? 10)).getD default_
    let width := (numberOf "w" 6).toNat
    let separator := (given.value? "s").getD ['\t']
    let style := (given.value? "b").getD ['t']
    let format := (given.value? "n").getD ['r', 'n']
    let label (n : Int) : Octets :=
      let text := signedDecimal n
      if format = ['l', 'n'] then padded width false ' ' text
      else if format = ['r', 'z'] then padded width true '0' text
      else padded width true ' ' text
    let mut number := numberOf "v" 1
    let mut code := 0
    for path in (if given.operands.isEmpty then [['-']] else given.operands) do
      match ← readOperand path with
      | .error e =>
        complainOf (shownName path) e
        code := 1
      | .ok data =>
        for text in linesOf data do
          let bare := bareLine text
          if style = ['a'] || (style = ['t'] && !bare.isEmpty) then
            say (line (label number ++ separator ++ bare))
            number := number + numberOf "i" 1
          else
            say (line (List.replicate (width + separator.length) ' ' ++ bare))
    return code

end LineShell.Machine.Tools
