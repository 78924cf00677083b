import LineShell.Machine.Tools.Parts

/-!
# Comparing files

A program that tells where two files differ first, or everywhere.
-/

namespace LineShell.Machine.Tools

structure Comparison where
  first : Path
  second : Path
  /-- The bytes that are left out at the start of each file. -/
  skips : Nat × Nat
  most : Option Nat
  showsBytes : Bool
  showsAll : Bool
  isSilent : Bool

namespace Comparison

/-- Ends a comparison that was asked for in a wrong way. -/
def misuse (text : Octets) : Act Nat := do
  unless text.isEmpty do complain text
  let job ← get
  complain ("Try '" ++ job.name ++ " --help' for more information.")
  return 2

/-- A byte as it is shown: one that is not printed is marked. -/
def shownByte (c : Char) : Octets :=
  if isPrinted c then [c]
  else
    let low (n : Nat) : Octets :=
      if n < 32 then ['^', Char.ofNat (n + 64)] else if n = 127 then ['^', '?'] else [Char.ofNat n]
    if c.toNat < 128 then low c.toNat else 'M' :: '-' :: low (c.toNat - 128)

def octal (c : Char) : Octets := padded 3 true ' ' (digitsIn 8 1 c.toNat)

def differences : (place : Nat) → Octets → Octets → List (Nat × Char × Char)
  | place, x :: xs, y :: ys =>
    if x = y then differences (place + 1) xs ys else (place, x, y) :: differences (place + 1) xs ys
  | _, _, _ => []

def listed (c : Comparison) (width : Nat) (difference : Nat × Char × Char) : Octets :=
  let (place, x, y) := difference
  let head := padded width true ' ' (decimal place) ++ [' ']
  line (head ++
    if c.showsBytes then
      spaced [octal x, padded 4 false ' ' (shownByte x), octal y, shownByte y]
    else octal x ++ [' '] ++ octal y)

def announced (c : Comparison) (lines : Nat) (difference : Nat × Char × Char) : Octets :=
  let (place, x, y) := difference
  let unit : Octets := if c.showsBytes then "byte " else "char "
  let bytes : Octets :=
    if c.showsBytes then
      " is " ++ spaced [octal x, shownByte x, octal y, shownByte y]
    else []
  line (c.first ++ ' ' :: c.second ++ " differ: " ++ unit ++ decimal place ++ ", line " ++
    decimal (lines + 1) ++ bytes)

/-- What is said of a file that is the beginning of the other one. -/
def shorter (c : Comparison) (path : Path) (text : Octets) : Octets :=
  let lines := text.count '\n'
  let place : Octets :=
    if text.isEmpty then " which is empty"
    else
      let after := " after byte " ++ decimal text.length
      if c.showsAll then after
      else if text.getLast? = some '\n' then after ++ ", line " ++ decimal lines
      else after ++ ", in line " ++ decimal (lines + 1)
  "EOF on " ++ path ++ place

/-- The width of the places. One that nothing is known about is as wide as can be. -/
def placeWidth (c : Comparison) (job : Job) : Nat :=
  let length (path : Path) (skip : Nat) : Option Nat :=
    if path = ['-'] then none
    else
      match job.files.readFile job.dir path with
      | .ok data => some (data.length - skip)
      | .error _ => none
  let lengths := [length c.first c.skips.1, length c.second c.skips.2, c.most].filterMap id
  (decimal (lengths.foldl min (Nat.pow 2 63 - 1))).length

def compare (c : Comparison) (x y : Octets) : Act Nat := do
  let part (skip : Nat) (text : Octets) : Octets :=
    let text := text.drop skip
    match c.most with
    | some most => text.take most
    | none => text
  let x := part c.skips.1 x
  let y := part c.skips.2 y
  if x = y then return 0
  unless c.isSilent do
    let found := differences 1 x y
    match c.showsAll, found with
    | false, difference :: _ =>
      say (c.announced ((x.take (difference.1 - 1)).count '\n') difference)
    | _, _ =>
      let width := c.placeWidth (← get)
      for difference in found do say (c.listed width difference)
      if x.length < y.length then warn (line ("cmp: " ++ c.shorter c.first x))
      if y.length < x.length then warn (line ("cmp: " ++ c.shorter c.second y))
  return 1

/-- The numbers of bytes to leave out that a text says: one for each file, or one for both. -/
def skips? (text : Octets) : Option (Nat × Nat) :=
  let number (text : Octets) : Option Nat := (amount? text).toOption
  match text.splitOn ':' with
  | [both] => (number both).map fun n => (n, n)
  | [first, second] => (number first).bind fun n => (number second).map fun m => (n, m)
  | _ => none

def ofGiven (given : Given) (job : Job) : Except Octets Comparison := do
  if given.has "l" && given.has "s" then throw ("options -l and -s are incompatible" : Octets)
  let wrong (option : String) (text : Octets) : Octets :=
    "invalid --" ++ Octets.ofString option ++ " value '" ++ text ++ "'"
  let asked ←
    match given.value? "i" with
    | none => pure (0, 0)
    | some text =>
      match skips? text with
      | some skips => pure skips
      | none => throw (wrong "ignore-initial" text)
  let limits ← (given.values "n").mapM fun text =>
    match amount? text with
    | .ok amount => .ok amount
    | .error _ => .error (wrong "bytes" text)
  let most := match limits with
    | [] => none
    | first :: rest => some (rest.foldl min first)
  let own (text : Option Octets) : Except Octets Nat :=
    match text with
    | none => .ok 0
    | some text =>
      match amount? text with
      | .ok amount => .ok amount
      | .error _ => .error (wrong "ignore-initial" text)
  match given.operands with
  | [] => throw ("missing operand after '" ++ job.name ++ "'")
  | first :: rest =>
    match rest.drop 3 with
    | extra :: _ => throw ("extra operand '" ++ extra ++ "'")
    | [] =>
      let skips := (max asked.1 (← own rest[1]?), max asked.2 (← own rest[2]?))
      return {
        first, second := rest.headD ['-'], skips, most
        showsBytes := given.has "b" || given.has "c", showsAll := given.has "l"
        isSilent := given.has "s" }

end Comparison

def cmp (args : List Octets) : Act Nat := do
  let choices : List Choice :=
    [⟨'s', "quiet", .nothing⟩, ⟨'s', "silent", .nothing⟩, ⟨'l', "verbose", .nothing⟩,
      ⟨'b', "print-bytes", .nothing⟩, ⟨'c', "print-chars", .nothing⟩, ⟨'n', "bytes", .value⟩,
      ⟨'i', "ignore-initial", .value⟩]
  match readFrom choices false (args.length + 1) args with
  | .error text => Comparison.misuse text
  | .ok given =>
    match Comparison.ofGiven given (← get) with
    | .error text => Comparison.misuse text
    | .ok c =>
      let fails (path : Path) (e : IoError) : Act Nat := do
        unless c.isSilent && e != .isADirectory do complainOf path e
        return 2
      if c.first = ['-'] && c.second = ['-'] then return 0
      match ← readOperand c.first, ← readOperand c.second with
      | .error e, _ => fails c.first e
      | _, .error e => fails c.second e
      | .ok x, .ok y => c.compare x y

end LineShell.Machine.Tools
