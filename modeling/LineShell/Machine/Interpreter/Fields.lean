import LineShell.Machine.Interpreter.State
import LineShell.Machine.Pattern

/-!
# Fields

A word becomes a run of glyphs: bytes that know whether they were quoted and whether they may
separate fields, and the marks between them. Glyphs fall into fields at separators.
-/

namespace LineShell.Machine.Interpreter

/-- A part of a word after its substitutions. -/
inductive Glyph where
  /-- A byte. One that was substituted outside of quotes may separate fields. -/
  | char (c : Char) (quoted splits : Bool)
  /-- Quotes stood here, so that the field is there even if it is empty. -/
  | mark
  | gap
  /-- Substituted fields meet here, as if a blank were between them. -/
  | joint
  | edge
  deriving DecidableEq, Repr

abbrev Field := List MarkedChar

def Field.text (field : Field) : Octets := field.map (·.1)

/-- Splitting in progress: the fields so far in reverse, the field that is open in reverse, and
whether it is there at all. -/
structure Splitting where
  fields : List Field := []
  current : Field := []
  present : Bool := false
  afterBlank : Bool := false

namespace Splitting

def close (s : Splitting) : Splitting :=
  { fields := s.current.reverse :: s.fields, current := [], present := false, afterBlank := false }

/-- Adds a byte to the open field. -/
def add (s : Splitting) (c : MarkedChar) : Splitting :=
  { s with current := c :: s.current, present := true, afterBlank := false }

/-- Takes a separator. Blanks beside a separator belong to it, and those at the start to nothing. -/
def separate (s : Splitting) (isBlank : Bool) : Splitting :=
  if s.afterBlank then { s with afterBlank := isBlank }
  else if isBlank && !s.present then s
  else { s.close with afterBlank := isBlank }

def step (separators : Octets) (s : Splitting) : Glyph → Splitting
  | .char c quoted splits =>
    if splits && separators.contains c then s.separate (isSpaceByte c)
    else s.add (c, quoted)
  | .mark => { s with present := true, afterBlank := false }
  | .gap => s.close
  | .joint => s.separate true
  | .edge => { s with afterBlank := false }

end Splitting

def fieldsOf (separators : Octets) (glyphs : List Glyph) : List Field :=
  let s := glyphs.foldl (Splitting.step separators) {}
  (if s.present then s.close else s).fields.reverse

/-- The bytes of a word that does not fall into fields. -/
def wholeField (glyphs : List Glyph) : Field :=
  glyphs.filterMap fun glyph =>
    match glyph with
    | .char c quoted _ => some (c, quoted)
    | .joint | .gap => some (' ', true)
    | _ => none

/-- A part of a path that a pattern describes. -/
def splitField (field : Field) : List Field :=
  (field.foldr
    (fun c (parts : List Field) =>
      if c.1 = '/' then [] :: parts
      else
        match parts with
        | [] => [[c]]
        | part :: rest => (c :: part) :: rest)
    [[]])

def matchingPaths (job : Job) : (beginning : Path) → List Field → List Path
  | _, [] => []
  | beginning, [part] =>
    if Pattern.isOpen part then
      (matchingNames job beginning part).map (beginning ++ ·)
    else
      let path := beginning ++ Field.text part
      if job.files.existsAt false job.dir path then [path] else []
  | beginning, part :: rest =>
    if Pattern.isOpen part then
      (matchingNames job beginning part).flatMap fun name =>
        matchingPaths job (beginning ++ name ++ ['/']) rest
    else matchingPaths job (beginning ++ Field.text part ++ ['/']) rest
where
  /-- The names in a directory that match a part; a dot at the start has to be written. -/
  matchingNames (job : Job) (beginning : Path) (part : Field) : List Path :=
    match job.files.namesAt job.dir (if beginning.isEmpty then ['.'] else beginning) with
    | .error _ => []
    | .ok entries =>
      let parts := Pattern.parts part
      let dotted := (part.head?.map (·.1)) = some '.'
      let names := (if dotted then [['.'], ['.', '.']] else []) ++ entries.map (·.1)
      names.filter fun name =>
        (dotted || name.head? != some '.') && Pattern.accepts parts name

/-- The texts that a field gives: the paths that it matches, or itself if there are none. -/
def matched (job : Job) (field : Field) : List Octets :=
  if Pattern.isOpen field then
    match matchingPaths job [] (splitField field) with
    | [] => [Field.text field]
    | paths => sortedOctets paths
  else [Field.text field]

end LineShell.Machine.Interpreter
