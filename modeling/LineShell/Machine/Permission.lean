import LineShell.Machine.Octets

/-!
# Permissions

The mode of a file is a number of twelve bits: read, write and execute for the owner, the group and
the others, and above them the three bits that change how a file runs. Whoever uses a machine owns
its files, so that the owner's bits decide.
-/

namespace LineShell.Machine

abbrev Mode := Nat

namespace Mode

def mayRead (mode : Mode) : Bool := mode.testBit 8

def mayWrite (mode : Mode) : Bool := mode.testBit 7

/-- The owner may execute a file, or pass through a directory. -/
def mayExecute (mode : Mode) : Bool := mode.testBit 6

def everyBit : Mode := 0o7777

def without (mode : Mode) : Mode := everyBit - mode

def newFile : Mode := 0o666

def newDirectory : Mode := 0o777

def masked (mode mask : Mode) : Mode := mode &&& (mask &&& everyBit).without

def letters (mode : Mode) : Octets :=
  let three (shift special : Nat) (set unset : Char) : Octets :=
    let bits := mode >>> shift
    let last :=
      if mode.testBit special then (if bits.testBit 0 then set else unset)
      else if bits.testBit 0 then 'x' else '-'
    [if bits.testBit 2 then 'r' else '-', if bits.testBit 1 then 'w' else '-', last]
  three 6 11 's' 'S' ++ three 3 10 's' 'S' ++ three 0 9 't' 'T'

def shown (mode : Mode) : Octets := digitsIn 8 4 mode ++ " (" ++ mode.letters ++ ")"

/-- Where the bits of a change come from. -/
inductive Source where
  | bits (value : Mode) (ifAnyExecutes : Bool)
  | copy (from_ : Mode)
  deriving DecidableEq, Repr

/-- One step of a change of modes. -/
structure Change where
  operator : Char
  /-- The bits of those who were named; 0 if nobody was. -/
  affected : Mode
  source : Source
  deriving DecidableEq, Repr

def classBits? : Char → Option Mode
  | 'u' => some 0o4700
  | 'g' => some 0o2070
  | 'o' => some 0o1007
  | 'a' => some everyBit
  | _ => none

/-- The bits that the letters of a permission stand for. -/
def permissionBits? : Char → Option Mode
  | 'r' => some 0o444
  | 'w' => some 0o222
  | 'x' => some 0o111
  | 'X' => some 0
  | 's' => some 0o6000
  | 't' => some 0o1000
  | _ => none

/-- Whether a byte says how to change. -/
def isOperator (c : Char) : Bool := c = '+' || c = '-' || c = '='

/-- The source of a change that a text begins with, and what follows. -/
def source? (affected : Mode) (text : Octets) : Option (Source × Octets) :=
  match text with
  | 'u' :: rest => some (.copy 0o700, rest)
  | 'g' :: rest => some (.copy 0o070, rest)
  | 'o' :: rest => some (.copy 0o007, rest)
  | _ =>
    let digits := text.takeWhile (isDigitIn 8)
    if digits.isEmpty then
      let letters := text.takeWhile fun c => (permissionBits? c).isSome
      some (.bits (letters.foldl (fun bits c => bits ||| (permissionBits? c).getD 0) 0)
        (letters.contains 'X'), text.drop letters.length)
    else if affected = 0 && numberIn 8 digits ≤ everyBit then
      some (.bits (numberIn 8 digits) false, text.drop digits.length)
    else none

/-- The changes of one clause, each an operator with a source, down to a number of them. -/
def changesOf (affected : Mode) : (fuel : Nat) → Octets → Option (List Change)
  | 0, _ => none
  | _, [] => some []
  | fuel + 1, operator :: rest =>
    if isOperator operator then
      match source? affected rest with
      | none => none
      | some (source, rest) =>
        (changesOf affected fuel rest).map (⟨operator, affected, source⟩ :: ·)
    else none

/-- The changes of a clause: who is affected, and how. -/
def clause? (text : Octets) : Option (List Change) :=
  let who := text.takeWhile fun c => (classBits? c).isSome
  let rest := text.drop who.length
  if rest.isEmpty then none
  else
    changesOf (who.foldl (fun bits c => bits ||| (classBits? c).getD 0) 0) (rest.length + 1) rest

def changes? (text : Octets) : Option (List Change) :=
  if !text.isEmpty && text.all (isDigitIn 8) then
    if numberIn 8 text ≤ everyBit then
      some [⟨'=', everyBit, .bits (numberIn 8 text) false⟩]
    else none
  else
    (text.splitOn ',').foldl
      (fun sofar clause =>
        match sofar, clause? clause with
        | some changes, some more => some (changes ++ more)
        | _, _ => none)
      (some [])

def apply (mask : Mode) (isDirectory : Bool) (mode : Mode) (change : Change) : Mode :=
  let value :=
    match change.source with
    | .bits value ifAnyExecutes =>
      if ifAnyExecutes && (isDirectory || mode &&& 0o111 ≠ 0) then value ||| 0o111 else value
    | .copy from_ =>
      let bits := mode &&& from_
      (if bits &&& 0o444 ≠ 0 then 0o444 else 0) ||| (if bits &&& 0o222 ≠ 0 then 0o222 else 0) |||
        (if bits &&& 0o111 ≠ 0 then 0o111 else 0)
  let reach := if change.affected = 0 then mask.without else change.affected
  let value := value &&& reach
  if change.operator = '+' then mode ||| value
  else if change.operator = '-' then mode &&& value.without
  else (if change.affected = 0 then 0 else mode &&& change.affected.without) ||| value

def change (mask : Mode) (isDirectory : Bool) (changes : List Change) (mode : Mode) : Mode :=
  changes.foldl (apply mask isDirectory) mode

end Mode

end LineShell.Machine
