import LineShell.Machine.Search
import LineShell.Machine.Tools.Names

/-!
# Findings

What is shown of a text whose lines have been searched: the lines that were found and those around
them, the parts of them that matched, how many they are, or the name of the file.
-/

namespace LineShell.Machine.Tools

inductive Shown where
  | lines
  | parts
  | count
  /-- The names of the files in which something was found. -/
  | names
  | otherNames
  | nothing
  deriving DecidableEq, Repr

/-- How texts with NULs are searched. -/
inductive NulTexts where
  | mentioned
  | asText
  | skipped
  deriving DecidableEq, Repr

/-- How a text is searched and what is shown of it. -/
structure Finding where
  /-- What a line has to contain, if anything will do. -/
  wanted : Option Search := none
  foldsCase : Bool := false
  isInverted : Bool := false
  most : Option Nat := none
  shown : Shown := .lines
  /-- The lines to show before and after one that was found. -/
  leading : Option Nat := none
  trailing : Option Nat := none
  /-- What stands between lines that do not follow each other. -/
  between : Option Octets := some ['-', '-']
  showsNumbers : Bool := false
  showsOffsets : Bool := false
  aligns : Bool := false
  endsNames : Bool := false
  isColoured : Bool := false
  lineEnd : Char := '\n'
  nulTexts : NulTexts := .mentioned

structure FoundLine where
  number : Nat
  offset : Nat
  text : Octets
  isFound : Bool

namespace Finding

def finds (f : Finding) (text : Octets) : Bool :=
  f.wanted.any fun e => (e.firstMatch? f.foldsCase (Search.Spot.start text)).isSome

/-- The parts of a line that match, each with the bytes before it, down to a number of them. -/
def partsFrom (foldsCase : Bool) (e : Search) : (fuel : Nat) → Search.Spot → List (Nat × Octets)
  | 0, _ => []
  | fuel + 1, spot =>
    match e.firstMatch? foldsCase spot with
    | none => []
    | some (first, last) =>
      if last.before.length = first.before.length then
        if last.after.isEmpty then [] else partsFrom foldsCase e fuel (last.skip 1)
      else (first.before.length, first.between last) :: partsFrom foldsCase e fuel last

def partsOf (f : Finding) (text : Octets) : List (Nat × Octets) :=
  match f.wanted with
  | none => []
  | some e => partsFrom f.foldsCase e (text.length + 1) (Search.Spot.start text)

/-- Lines with their numbers and places; no more than so many are found. -/
def marked (f : Finding) : (number offset : Nat) → (most : Option Nat) → List Octets →
    List FoundLine
  | _, _, _, [] => []
  | number, offset, most, text :: rest =>
    let isFound := most != some 0 && f.finds text != f.isInverted
    ⟨number, offset, text, isFound⟩ ::
      f.marked (number + 1) (offset + text.length + 1) (if isFound then most.map (· - 1) else most)
        rest

def hasNuls (f : Finding) (data : Octets) : Bool :=
  f.lineEnd = '\n' && f.nulTexts != .asText && data.contains '\x00'

/-- The lines of a text; a NUL ends one too if it makes a difference. -/
def linesIn (f : Finding) (data : Octets) : List FoundLine :=
  if !f.hasNuls data then
    f.marked 1 0 f.most ((endedBy f.lineEnd data).map (Machine.withoutEnd f.lineEnd))
  else if f.nulTexts = .skipped then []
  else
    f.marked 1 0 f.most (bareLines (data.map fun c => if c = '\x00' then '\n' else c))
where
  bareLines (data : Octets) : List Octets := (linesOf data).map bareLine

def painted (f : Finding) (colour : String) (text : Octets) : Octets :=
  if f.isColoured then
    "\x1b[" ++ Octets.ofString colour ++ "m\x1b[K" ++ text ++ "\x1b[m\x1b[K"
  else text

def part (f : Finding) (text : Octets) : Octets := f.painted "01;31" text

def mark (f : Finding) (sign : Char) : Octets := f.painted "36" [sign]

/-- The name of a file before what is shown of it. -/
def nameBefore (f : Finding) (name : Octets) (sign : Char) : Octets :=
  f.painted "35" name ++ if f.endsNames then ['\x00'] else f.mark sign

/-- What stands before a line: the name of the file, the number of the line and its place, in fields
of some width. -/
def lead (f : Finding) (name : Option Octets) (width number offset : Nat) (sign : Char)
    (isEmpty : Bool) : Octets :=
  let field (isShown : Bool) (n : Nat) : Octets :=
    if isShown then f.painted "32" (padded width true ' ' (decimal n)) ++ f.mark sign else []
  let text := ((name.map fun name => f.nameBefore name sign).getD []) ++
    field f.showsNumbers number ++ field f.showsOffsets offset
  if f.aligns && !text.isEmpty && !isEmpty then text ++ ['\t'] else text

def colouredLine (f : Finding) (text : Octets) : Octets :=
  let (shown, place) := (f.partsOf text).foldl
    (fun (shown, place) (start, found) =>
      (shown ++ (text.drop place).take (start - place) ++ f.part found, start + found.length))
    (([] : Octets), 0)
  shown ++ text.drop place

/-- A line as it is shown. Of a line that did not match no part is shown. -/
def lineShown (f : Finding) (name : Option Octets) (width : Nat) (l : FoundLine) : Octets :=
  let matched := l.isFound != f.isInverted
  if f.shown = .parts then
    if matched then
      (f.partsOf l.text).flatMap fun (start, found) =>
        f.lead name width l.number (l.offset + start) (if f.isInverted then '-' else ':') false ++
          f.part found ++ [f.lineEnd]
    else []
  else
    f.lead name width l.number l.offset (if l.isFound then ':' else '-') l.text.isEmpty ++
      (if f.isColoured && matched then f.colouredLine l.text else l.text) ++ [f.lineEnd]

/-- Whether the lines around those that were found were asked for. -/
def showsContext (f : Finding) : Bool := f.leading.isSome || f.trailing.isSome

def near (f : Finding) (all : List FoundLine) : List FoundLine :=
  let numbers := (all.filter (·.isFound)).map (·.number)
  all.filter fun l =>
    numbers.any fun n => l.number ≤ n + f.trailing.getD 0 && n ≤ l.number + f.leading.getD 0

/-- What is shown of the lines of a text. Lines that do not follow each other, or lines of another
text, are set apart where the lines around those that were found were asked for. -/
def linesShown (f : Finding) (name : Option Octets) (width : Nat) (isLater : Bool)
    (all : List FoundLine) : Octets :=
  let apart : Octets :=
    if f.showsContext then
      match f.between with
      | some text => f.painted "36" text ++ ['\n']
      | none => []
    else []
  let step (state : Octets × Option Nat) (l : FoundLine) : Octets × Option Nat :=
    let follows := state.2.any (· + 1 = l.number)
    let isFirst := state.2.isNone && !isLater
    (state.1 ++ (if follows || isFirst then [] else apart) ++ f.lineShown name width l,
      some l.number)
  ((f.near all).foldl step ([], none)).1

def fieldWidth (f : Finding) (length : Option Nat) : Nat :=
  if !f.aligns then 0
  else
    match length with
    | none => 19
    | some length => (decimal (if f.showsNumbers then length + 1 else length)).length

end Finding

end LineShell.Machine.Tools
