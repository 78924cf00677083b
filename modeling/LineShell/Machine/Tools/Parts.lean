import LineShell.Machine.Tools.Durations

/-!
# Parts of files

Programs that print the beginning or the end of files, as many lines or bytes as a number says that
may have letters after it.
-/

namespace LineShell.Machine.Tools

/-- The numbers that a program can hold are smaller. -/
def amountLimit : Nat := Nat.pow 2 64

def factor? (letters : Octets) : Option Nat :=
  let power (letter : Char) : Option Nat :=
    [('K', 1), ('k', 1), ('M', 2), ('m', 2), ('G', 3), ('T', 4), ('P', 5), ('E', 6), ('Z', 7),
      ('Y', 8)].lookup letter
  match letters with
  | [] => some 1
  | ['b'] => some 512
  | [letter] | [letter, 'i', 'B'] => (power letter).map (Nat.pow 1024)
  | [letter, 'B'] | [letter, 'D'] => (power letter).map (Nat.pow 1000)
  | _ => none

/-- The amount that a text says: a number with letters after it, which may stand alone. An error
tells whether the number is only too large. -/
def amount? (text : Octets) : Except Bool Nat :=
  let text := text.dropWhile isWhiteByte
  let unsigned := if text.head? = some '+' then text.drop 1 else text
  let digits := unsigned.takeWhile Char.isDigit
  let letters := unsigned.drop digits.length
  let isLone := digits.isEmpty && unsigned.length = text.length && !letters.isEmpty
  if digits.isEmpty && !isLone then .error false
  else
    match factor? letters with
    | none => .error false
    | some factor =>
      let amount := (if isLone then 1 else numberIn 10 digits) * factor
      if amount < amountLimit then .ok amount else .error true

/-- How much of a file is printed. -/
structure Extent where
  inBytes : Bool
  mark : Char
  leavesOut : Bool
  amount : Nat

/-- The units of a file: its bytes or its lines. -/
def Extent.units (e : Extent) (data : Octets) : List Octets :=
  if e.inBytes then data.map ([·]) else endedBy e.mark data

def Extent.first (e : Extent) (data : Octets) : Octets :=
  let units := e.units data
  (units.take (if e.leavesOut then units.length - e.amount else e.amount)).flatten

def Extent.last (e : Extent) (data : Octets) : Octets :=
  let units := e.units data
  (units.drop (if e.leavesOut then e.amount - 1 else units.length - e.amount)).flatten

/-- The extent that the options of a call say. The sign tells what is left out. -/
def extentOf (sign : Char) (given : Given) : Except Refusal Extent :=
  let mark : Char := if given.has "z" then '\x00' else '\n'
  match given.last? ["c", "n"] with
  | none => .ok ⟨false, mark, false, 10⟩
  | some key =>
    let whole := (given.value? key).getD []
    let text := if whole.head? = some '-' then whole.drop 1 else whole
    match amount? text with
    | .ok amount => .ok ⟨key = "c", mark, whole.head? = some sign, amount⟩
    | .error isTooLarge =>
      let unit : Octets := if key = "c" then "bytes" else "lines"
      .error {
        text := "invalid number of " ++ unit ++ ": " ++ quotedWord text ++
          (if isTooLarge then ": Value too large for defined data type" else [] : Octets) }

def partTitle (isFirst : Bool) (path : Path) : Octets :=
  let name : Octets := if path = ['-'] then "standard input" else path
  (if isFirst then [] else ['\n']) ++ line ("==> " ++ name ++ " <==")

def printParts (part : Extent → Octets → Octets) (extent : Extent) (given : Given) : Act Nat := do
  let paths := if given.operands.isEmpty then [['-']] else given.operands
  let isTitled : Bool :=
    match given.last? ["q", "v"] with
    | some key => key = "v"
    | none => paths.length != 1
  let mut code := 0
  let mut isFirst := true
  for path in paths do
    let job ← get
    let opened : Except IoError Unit :=
      if path = ['-'] then .ok ()
      else (job.files.openForReading job.dir path).map fun _ => ()
    match opened with
    | .error e =>
      complainOf ("cannot open " ++ quotedName path ++ " for reading") e
      code := 1
    | .ok () =>
      if isTitled then say (partTitle isFirst path)
      isFirst := false
      match ← readOperand path with
      | .ok data => say (part extent data)
      | .error e =>
        complainOf ("error reading " ++ quotedName path) e
        code := 1
  return code

/-- The digits, each of them an option that takes what follows it. -/
def digitChoices : List Choice := "0123456789".toList.map fun digit => ⟨digit, "", .maybe⟩

/-- The options of the programs that print parts of files. -/
def partChoices : List Choice :=
  [⟨'c', "bytes", .value⟩, ⟨'n', "lines", .value⟩, ⟨'q', "quiet", .nothing⟩,
    ⟨'q', "silent", .nothing⟩, ⟨'v', "verbose", .nothing⟩, ⟨'z', "zero-terminated", .nothing⟩]

/-- The options that letters after a number alone stand for; the byte that is none of them. -/
def headLetters (digits : Octets) : (inBytes : Bool) → (factor : Octets) →
    (others : List (String × Option Octets)) → Octets → Except Char (List (String × Option Octets))
  | inBytes, factor, others, [] =>
    .ok ((if inBytes then "c" else "n", some (digits ++ factor)) :: others)
  | inBytes, factor, others, letter :: rest =>
    if letter = 'c' then headLetters digits true [] others rest
    else if letter = 'b' || letter = 'k' || letter = 'm' then
      headLetters digits true [letter] others rest
    else if letter = 'l' then headLetters digits false factor others rest
    else if letter = 'q' || letter = 'v' || letter = 'z' then
      headLetters digits inBytes factor (others ++ [(String.singleton letter, none)]) rest
    else .error letter

/-- Prints the first part of files. The amount may stand alone before all other options. -/
def head (args : List Octets) : Act Nat := do
  let wrong (letter : Char) : Act Nat := misuse 1 ("invalid trailing option -- " ++ [letter])
  let alone : Except Char (List (String × Option Octets) × List Octets) :=
    match args with
    | ('-' :: digit :: text) :: rest =>
      if digit.isDigit then
        let digits := (digit :: text).takeWhile Char.isDigit
        (headLetters digits false [] [] ((digit :: text).drop digits.length)).map fun set_ =>
          (set_, rest)
      else .ok ([], args)
    | _ => .ok ([], args)
  match alone with
  | .error letter => wrong letter
  | .ok (before, rest) =>
    withOptions (partChoices ++ digitChoices) 1 rest fun given => do
      match given.set_.find? fun (key, _) => digitChoices.any (·.key = key) with
      | some (key, _) => wrong (key.toList.headD ' ')
      | none =>
        let given := { given with set_ := before ++ given.set_ }
        match extentOf '-' given with
        | .error refusal => refusal.answer
        | .ok extent => printParts Extent.first extent given

/-- The options that an amount alone stands for: a sign, digits, and letters for the unit and for
following. -/
def tailAmount? (word : Octets) : Option (List (String × Option Octets)) :=
  match word with
  | sign :: rest =>
    let digits := rest.takeWhile Char.isDigit
    let after := rest.drop digits.length
    let (unit, after) : Option Char × Octets :=
      match after with
      | letter :: more =>
        if letter = 'b' || letter = 'c' || letter = 'l' then (some letter, more) else (none, after)
      | [] => (none, [])
    let follows := after = ['f']
    if (sign != '-' && sign != '+') || !(after.isEmpty || follows) ||
        (sign = '-' && digits.isEmpty) then none
    else
      let amount := (if digits.isEmpty then ['1', '0'] else digits) ++
        (if unit = some 'b' then ['b'] else [])
      let text := if sign = '+' then sign :: amount else amount
      some ((if unit = some 'b' || unit = some 'c' then "c" else "n", some text) ::
        (if follows then [("f", none)] else []))
  | [] => none

/-- Prints the last part of files. The amount may stand alone before one file. -/
def tail (args : List Octets) : Act Nat := do
  let isAlone : Bool :=
    match args with
    | [_] => true
    | [_, second] => second.head? != some '-' || second.length < 2 || second = ['-', '-']
    | [_, second, _] => second = ['-', '-']
    | _ => false
  let before := if isAlone then args.head?.bind tailAmount? else none
  let choices := partChoices ++ digitChoices ++
    [⟨'f', "follow", .maybe⟩, ⟨'F', "", .nothing⟩, ⟨' ', "retry", .nothing⟩, ⟨' ', "pid", .value⟩,
      ⟨'s', "sleep-interval", .value⟩]
  let checked (given : Given) : Except Octets Unit := do
    match given.value? "pid" with
    | some text => unless isNumber text do .error ("invalid PID: " ++ quotedWord text)
    | none => pure ()
    match given.value? "s" with
    | some text =>
      unless isSeconds text do
        .error ("invalid number of seconds: " ++ quotedWord text)
    | none => pure ()
  withOptions choices 1 (if before.isSome then args.drop 1 else args) fun given => do
    let digit := given.set_.find? fun (key, _) => digitChoices.any (·.key = key)
    let followed : Except Refusal Bool :=
      match given.value? "f" with
      | some word => meaningOf "--follow" [(["descriptor"], true), (["name"], true)] word
      | none => .ok true
    let given := { given with set_ := before.getD [] ++ given.set_ }
    match digit, followed, extentOf '+' given, checked given with
    | some (key, _), _, _, _ =>
      refuse ("option used in invalid context -- " ++ Octets.ofString key)
    | _, .error refusal, _, _ | _, _, .error refusal, _ => refusal.answer
    | _, _, _, .error text => refuse text
    | none, .ok _, .ok extent, .ok () =>
      if given.has "retry" && !given.has "f" then
        complain "warning: --retry ignored; --retry is useful only when following"
      printParts Extent.last extent given

end LineShell.Machine.Tools
