import LineShell.Machine.Interpreter.Options

/-!
# Reading a line

A line of input is given to variables, a field to each and the rest to the last. A backslash takes
the next byte as it is, and joins lines.
-/

namespace LineShell.Machine.Interpreter

inductive LineItem where
  | byte (c : Char)
  /-- A byte after a backslash, which separates nothing. -/
  | kept (c : Char)
  | seam
  deriving DecidableEq, Repr

/-- What was read of an input: the parts of a line, the number of bytes, and whether the line was
ended. -/
structure LineReading where
  items : List LineItem
  size : Nat
  ended : Bool

def LineReading.after (r : LineReading) (items : List LineItem) (size : Nat) : LineReading :=
  { r with items := items ++ r.items, size := r.size + size }

/-- Reads a line. NULs are dropped, also between a backslash and the byte that it keeps. -/
def readItems (isRaw : Bool) : (escaped : Bool) → Octets → LineReading
  | _, [] => ⟨[], 0, false⟩
  | escaped, c :: rest =>
    if c = '\x00' then (readItems isRaw escaped rest).after [] 1
    else if escaped then
      (readItems isRaw false rest).after [if c = '\n' then .seam else .kept c] 1
    else if c = '\\' && !isRaw then (readItems isRaw true rest).after [] 1
    else if c = '\n' then ⟨[], 1, true⟩
    else (readItems isRaw false rest).after [.byte c] 1

/-- A line that is given to variables in turn. -/
structure Division where
  fields : List Octets := []
  current : Octets := []
  left : Nat
  afterBlank : Bool := false
  /-- The size of the last field before the separators at its end. -/
  kept : Option Nat := none

namespace Division

/-- Adds a byte to the open field. -/
def add (d : Division) (c : Char) : Division := { d with current := c :: d.current }

/-- Takes a byte of the last field. -/
def stepLast (d : Division) (c : Char) (separates isBlank : Bool) : Division :=
  if separates && isBlank then
    { d.add c with kept := some (d.kept.getD d.current.length) }
  else
    { d.add c with
      kept := if separates && d.afterBlank then d.kept else none
      afterBlank := false }

/-- Takes a byte of a field that is not the last. -/
def stepInner (d : Division) (c : Char) (separates isBlank : Bool) : Division :=
  if d.afterBlank then
    if separates then { d with current := [], afterBlank := isBlank }
    else { d with current := [c], afterBlank := false }
  else if separates then
    if isBlank && d.current.isEmpty then d
    else if d.left = 1 then
      { d.add c with left := 0, kept := some d.current.length, afterBlank := isBlank }
    else
      { d with
        fields := d.current.reverse :: d.fields
        current := []
        left := d.left - 1
        afterBlank := isBlank }
  else d.add c

def step (separators : Octets) (d : Division) : LineItem → Division
  | .byte c =>
    let separates := separators.contains c
    let isBlank := separates && isSpaceByte c
    if d.left = 0 then d.stepLast c separates isBlank else d.stepInner c separates isBlank
  | .kept c => { d.add c with afterBlank := false }
  | .seam => { d with afterBlank := false }

def result (d : Division) : List Octets :=
  let last := d.current.reverse
  let last := match d.kept with
    | some size => last.take size
    | none => last
  d.fields.reverse ++ (if last.isEmpty then [] else [last])

end Division

/-- The fields of a line for a number of variables. -/
def divide (separators : Octets) (count : Nat) (items : List LineItem) : List Octets :=
  (items.foldl (Division.step separators) { left := count }).result

/-- Gives texts to variables; those that are left over become empty. -/
def distribute : List Octets → List Octets → Run Unit
  | [], _ => return ()
  | name :: names, [] => do
    requireName name
    assign name []
    distribute names []
  | name :: names, text :: texts => do
    requireName name
    assign name text
    distribute names texts

def readLine (args : List Octets) : Run Nat := do
  let (options, names) ← optionsOf "p:r" args
  if names.isEmpty then fail "arg count"
  else
    let s ← get
    let input := match s.job.unread 0 with
      | .ok data => data
      | .error _ => []
    let reading := readItems (options.any (·.1 = 'r')) false input
    set { s with job := s.job.skip 0 reading.size }
    distribute names (divide s.separators names.length reading.items)
    return if reading.ended then 0 else 1

end LineShell.Machine.Interpreter
