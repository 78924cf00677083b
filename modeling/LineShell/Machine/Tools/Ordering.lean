import LineShell.Machine.Pattern
import LineShell.Machine.Tools.Printing

/-!
# Ordering lines

Lines are ordered by keys, which are parts of them, and by the lines as a whole where the keys are
equal.
-/

namespace LineShell.Machine.Tools

/-- A field of a line that lines are ordered by. -/
structure SortKey where
  firstField : Nat
  firstByte : Nat
  /-- The last field and byte; 0 bytes are the whole field. -/
  last : Option (Nat × Nat)
  flags : Octets

def keyPlace? (text : Octets) : Option (Nat × Option Nat × Octets) :=
  let field := text.takeWhile Char.isDigit
  let rest := text.drop field.length
  let (byte, rest) : Option Octets × Octets :=
    match rest with
    | '.' :: rest =>
      let digits := rest.takeWhile Char.isDigit
      (some digits, rest.drop digits.length)
    | rest => (none, rest)
  if field.isEmpty || !(rest.all fun c => "bdfginMrRV".toList.contains c) then none
  else some (numberIn 10 field, byte.map (numberIn 10), rest)

def sortKey? (text : Octets) : Option SortKey :=
  let start := text.takeWhile (· != ',')
  match keyPlace? start with
  | none => none
  | some (field, byte, flags) =>
    if field = 0 then none
    else
      let key : SortKey := ⟨field, byte.getD 1, none, flags⟩
      match text.drop start.length with
      | [] => some key
      | _ :: rest =>
        (keyPlace? rest).map fun (field, byte, more) =>
          { key with last := some (field, byte.getD 0), flags := flags ++ more }

/-- The fields of a line. Without a separator each field begins with the blanks before it. -/
def sortFields (separator : Option Char) (text : Octets) : List Octets :=
  match separator with
  | some c => text.splitOn c
  | none =>
    let isBlank (c : Char) : Bool := c = ' ' || c = '\t'
    let step (c : Char) (fields : List Octets) : List Octets :=
      match fields with
      | [] => [[c]]
      | field :: rest =>
        -- A blank starts a field unless the field goes on with blanks.
        if !isBlank c && (field.head?.map isBlank) = some true then [c] :: field :: rest
        else (c :: field) :: rest
    text.foldr step []

def SortKey.part (key : SortKey) (separator : Option Char) (text : Octets) : Octets :=
  let fields := sortFields separator text
  let between : Octets := separator.toList
  let skipsBlanks := key.flags.contains 'b'
  let join (fields : List Octets) : Octets := joined between fields
  let trimmed (field : Octets) : Octets :=
    if skipsBlanks then field.dropWhile (fun c => c = ' ' || c = '\t') else field
  let from_ := fields.drop (key.firstField - 1)
  match from_ with
  | [] => []
  | first :: later =>
    let first' := (trimmed first).drop (key.firstByte - 1)
    match key.last with
    | none => join (first' :: later)
    | some (lastField, lastByte) =>
      let count := lastField + 1 - key.firstField
      if count = 0 then []
      else
        let whole := (first' :: later).take count
        if lastByte = 0 || (first' :: later).length < count then join whole
        else
          let before := whole.dropLast
          let last := (whole.getLast?).getD []
          let kept := if count = 1 then last.take (lastByte + 1 - key.firstByte)
            else (trimmed last).take lastByte
          join (before ++ [kept])

/-- A number with a fraction of some places. -/
structure Decimal where
  scaled : Int
  places : Nat

/-- The value of the number that a text begins with, as a numerator over a power of ten. -/
def leadingDecimal (text : Octets) : Decimal :=
  let text := text.dropWhile fun c => c = ' ' || c = '\t'
  let (negative, digits) : Bool × Octets :=
    match text with
    | '-' :: rest => (true, rest)
    | rest => (false, rest)
  let whole := digits.takeWhile Char.isDigit
  let fraction : Octets :=
    match digits.drop whole.length with
    | '.' :: rest => rest.takeWhile Char.isDigit
    | _ => []
  let n : Int := numberIn 10 (whole ++ fraction)
  ⟨if negative then -n else n, fraction.length⟩

def compareTexts (flags : Octets) (x y : Octets) : Ordering :=
  if flags.contains 'n' || flags.contains 'g' then
    let a := leadingDecimal x
    let b := leadingDecimal y
    compare (a.scaled * Nat.pow 10 b.places) (b.scaled * Nat.pow 10 a.places)
  else
    let prepared (text : Octets) : Octets :=
      let text := if flags.contains 'b' then text.dropWhile (fun c => c = ' ' || c = '\t') else text
      let text := if flags.contains 'd' then
        text.filter fun c => c.isAlphanum || c = ' ' || c = '\t' else text
      let text := if flags.contains 'i' then text.filter isPrinted else text
      if flags.contains 'f' then text.map Char.toUpper else text
    let x := prepared x
    let y := prepared y
    if x = y then .eq else if notAfter x y then .lt else .gt

structure Order where
  keys : List SortKey
  separator : Option Char
  flags : Octets
  /-- Lines that are equal by their keys stay as they are. -/
  isStable : Bool

namespace Order

def compareKeys (o : Order) (x y : Octets) : Ordering :=
  let rec go : List SortKey → Ordering
    | [] => .eq
    | key :: rest =>
      let inherits := key.flags.all (· = 'b')
      let flags := if inherits then key.flags ++ o.flags else key.flags
      let order := compareTexts flags (key.part o.separator x) (key.part o.separator y)
      let order := if flags.contains 'r' then order.swap else order
      match order with
      | .eq => go rest
      | order => order
  if o.keys.isEmpty then
    let order := compareTexts o.flags x y
    if o.flags.contains 'r' then order.swap else order
  else go o.keys

def compareLines (o : Order) (x y : Octets) : Ordering :=
  match o.compareKeys x y with
  | .eq =>
    if o.isStable then .eq
    else
      let order : Ordering := if x = y then .eq else if notAfter x y then .lt else .gt
      if o.flags.contains 'r' then order.swap else order
  | order => order

def sorted (o : Order) (lines : List Octets) : List Octets :=
  lines.mergeSort fun x y => o.compareLines x y != .gt

end Order

/-- Lines of which each differs from the one before it. -/
def distinct (isSame : Octets → Octets → Bool) : List Octets → List Octets
  | [] => []
  | first :: rest =>
    let rec go (last : Octets) : List Octets → List Octets
      | [] => []
      | next :: rest => if isSame last next then go last rest else next :: go next rest
    first :: go first rest

/-- The texts of lines, of which the last may lack its end. -/
def bareLines (data : Octets) : List Octets := (linesOf data).map bareLine

/-- Whether lines are in order; the first that is not, with its number. -/
def disorder? (o : Order) (strictly : Bool) : (number : Nat) → List Octets → Option (Nat × Octets)
  | _, [] | _, [_] => none
  | number, x :: y :: rest =>
    let order := if strictly then o.compareKeys x y else o.compareLines x y
    if order = .gt || (strictly && order = .eq) then some (number + 1, y)
    else disorder? o strictly (number + 1) (y :: rest)

/-- Prints the lines of files in order. -/
def sort (args : List Octets) : Act Nat :=
  withOptions
    (letters "bdfgiMhnrRVmsz" ++
      [⟨'c', "check", .maybe⟩, ⟨'C', "", .nothing⟩, ⟨'u', "unique", .nothing⟩,
        ⟨'k', "key", .value⟩, ⟨'o', "output", .value⟩, ⟨'t', "field-separator", .value⟩,
        ⟨'S', "buffer-size", .value⟩, ⟨'T', "temporary-directory", .value⟩,
        ⟨'n', "numeric-sort", .nothing⟩, ⟨'r', "reverse", .nothing⟩,
        ⟨'f', "ignore-case", .nothing⟩, ⟨'b', "ignore-leading-blanks", .nothing⟩,
        ⟨'d', "dictionary-order", .nothing⟩, ⟨'s', "stable", .nothing⟩]) 2 args fun given => do
    let keyTexts := given.values "k"
    match keyTexts.find? fun text => (sortKey? text).isNone with
    | some text =>
      complain ("invalid number at field start: invalid count at start of " ++ quotedWord text)
      return 2
    | none =>
      let flags := given.set_.filterMap fun (key, _) =>
        match key.toList with
        | [letter] => if "bdfginrR".toList.contains letter then some letter else none
        | _ => none
      let order : Order := {
        keys := keyTexts.filterMap sortKey?
        separator := (given.value? "t").bind fun text => if text = "\\0" then some '\x00' else text.head?
        flags, isStable := given.has "s" || given.has "u" }
      let mut lines : List Octets := []
      let mut fault : Option (Path × IoError) := none
      for path in (if given.operands.isEmpty then [['-']] else given.operands) do
        match ← readOperand path with
        | .ok data => lines := lines ++ bareLines data
        | .error e => if fault.isNone then fault := some (path, e)
      match fault with
      | some (path, e) =>
        if e = .isADirectory then complainOf ("read failed: " ++ shownName path) e
        else complainOf ("cannot read: " ++ shownName path) e
        return 2
      | none =>
        if given.has "c" || given.has "C" then
          match disorder? order (given.has "u") 1 lines with
          | none => return 0
          | some (number, text) =>
            unless given.has "C" do
              let name := given.operands.headD ['-']
              complain (name ++ ':' :: decimal number ++ ": disorder: " ++ text)
            return 1
        else
          let sorted := order.sorted lines
          let result :=
            if given.has "u" then distinct (fun x y => order.compareKeys x y = .eq) sorted
            else sorted
          let text := result.flatMap line
          match given.value? "o" with
          | none =>
            say text
            return 0
          | some path =>
            let job ← get
            match job.openFile path false true false true true with
            | .ok (job, id) =>
              set (match job.world.write id text with
                | .ok world => { job with world }
                | .error _ => job)
              return 0
            | .error e =>
              complainOf ("open failed: " ++ shownName path) e
              return 2

/-- Lines that follow one another and are the same, with their number. -/
def runs (isSame : Octets → Octets → Bool) (lines : List Octets) : List (List Octets) :=
  lines.foldr
    (fun text (runs : List (List Octets)) =>
      match runs with
      | (first :: rest) :: later =>
        if isSame text first then (text :: first :: rest) :: later else [text] :: runs
      | runs => [text] :: runs)
    []

/-- Prints lines that follow one another and are the same once. -/
def uniq (args : List Octets) : Act Nat :=
  withOptions
    [⟨'c', "count", .nothing⟩, ⟨'d', "repeated", .nothing⟩, ⟨'D', "", .nothing⟩,
      ⟨'u', "unique", .nothing⟩, ⟨'i', "ignore-case", .nothing⟩, ⟨'f', "skip-fields", .value⟩,
      ⟨'s', "skip-chars", .value⟩, ⟨'w', "check-chars", .value⟩,
      ⟨'z', "zero-terminated", .nothing⟩] 1 args fun given => do
    let amount (key : String) : Option Nat := (given.value? key).bind number?
    let withoutField (text : Octets) : Octets :=
      let isBlank (c : Char) : Bool := c = ' ' || c = '\t'
      (text.dropWhile isBlank).dropWhile fun c => !isBlank c
    let part (text : Octets) : Octets :=
      let text := (List.range ((amount "f").getD 0)).foldl (fun text _ => withoutField text) text
      let text := text.drop ((amount "s").getD 0)
      let text := match amount "w" with
        | some n => text.take n
        | none => text
      if given.has "i" then text.map Char.toLower else text
    match given.operands with
    | _ :: _ :: extra :: _ => misuse 1 ("extra operand " ++ quotedName extra)
    | operands =>
      let path := operands.headD ['-']
      match ← readOperand path with
      | .error e =>
        if e = .isADirectory then complainOf ("error reading " ++ quotedName path) e
        else complainOf (shownName path) e
        return 1
      | .ok data =>
        let shown := (runs (fun x y => part x = part y) (bareLines data)).flatMap fun run =>
          let isRepeated := 1 < run.length
          let texts := if given.has "D" then run else run.take 1
          if (given.has "d" || given.has "D") && !isRepeated then []
          else if given.has "u" && isRepeated then []
          else texts.flatMap fun text =>
            line ((if given.has "c" then padded 7 true ' ' (decimal run.length) ++ [' '] else []) ++
              text)
        match operands with
        | _ :: target :: _ =>
          let job ← get
          match job.openFile target false true false true true with
          | .ok (job, id) =>
            set (match job.world.write id shown with
              | .ok world => { job with world }
              | .error _ => job)
            return 0
          | .error e =>
            complainOf (shownName target) e
            return 1
        | _ =>
          say shown
          return 0

end LineShell.Machine.Tools
