import LineShell.Text.ClusterTables
import LineShell.Text.Fit

/-!
# Grapheme clusters

What a reader sees as one character may be several code points. A text falls into extended grapheme
clusters; a backspace takes back the cluster before it, or what a one-byte length says of it.
-/

namespace LineShell.Text

/-- How a character takes part in clusters. -/
inductive ClusterRole where
  | carriageReturn
  | lineFeed
  | control
  | extend
  | joiner
  | regional
  | prepend
  | spacingMark
  | leadingJamo
  | vowelJamo
  | trailingJamo
  | openSyllable
  | closedSyllable
  | other
  deriving DecidableEq, Repr

def ClusterRole.of (c : Char) : ClusterRole :=
  let n := c.toNat
  let within (low high : Nat) : Bool := low ≤ n && n ≤ high
  if n == 0x0D then .carriageReturn
  else if n == 0x0A then .lineFeed
  else if n == 0x200D then .joiner
  else if within 0x1F1E6 0x1F1FF then .regional
  else if within 0xAC00 0xD7A3 then
    if (n - 0xAC00) % 28 == 0 then .openSyllable else .closedSyllable
  else if within 0x1100 0x115F || within 0xA960 0xA97C then .leadingJamo
  else if within 0x1160 0x11A7 || within 0xD7B0 0xD7C6 || n == 0x16D63 || within 0x16D67 0x16D6A then
    .vowelJamo
  else if within 0x11A8 0x11FF || within 0xD7CB 0xD7FB then .trailingJamo
  else if isGraphemeExtend c || within 0x1F3FB 0x1F3FF then .extend
  else if clusterControlRanges.contains c then .control
  else if prependRanges.contains c then .prepend
  else if spacingMarkRanges.contains c then .spacingMark
  else .other

/-- How far a run of consonants, linkers and extenders has come towards a conjunct. -/
inductive Conjunct where
  | none
  | consonant
  | linked
  deriving DecidableEq, Repr

/-- How far a pictograph with its extenders has come towards joining another. -/
inductive Pictograph where
  | none
  | open
  | joined
  deriving DecidableEq, Repr

/-- What has to be known of the characters so far to tell whether the next one joins them. -/
structure ClusterState where
  role : ClusterRole
  conjunct : Conjunct
  pictograph : Pictograph
  /-- The regional indicators at the end are odd in number. -/
  oddRegional : Bool
  deriving DecidableEq, Repr

def ClusterState.next (before : Option ClusterState) (c : Char) : ClusterState :=
  let role := ClusterRole.of c
  let earlier := (before.map ClusterState.conjunct).getD .none
  let conjunct : Conjunct :=
    if conjunctConsonantRanges.contains c then .consonant
    else if earlier = .none then .none
    else if conjunctLinkerRanges.contains c then .linked
    else if role = .joiner || (role = .extend && c != '\u200C') then earlier
    else .none
  let pictograph : Pictograph :=
    if pictographicRanges.contains c then .open
    else if (before.map ClusterState.pictograph) = some .open then
      if role = .extend then .open else if role = .joiner then .joined else .none
    else .none
  { role, conjunct, pictograph,
    oddRegional := role = .regional && !(before.map ClusterState.oddRegional).getD false }

def ClusterState.joins (s : ClusterState) (c : Char) : Bool :=
  let role := ClusterRole.of c
  match s.role, role with
  | .carriageReturn, .lineFeed => true
  | .carriageReturn, _ | .lineFeed, _ | .control, _ => false
  | _, .carriageReturn | _, .lineFeed | _, .control => false
  | _, .extend | _, .joiner | _, .spacingMark => true
  | .prepend, _ => true
  | .leadingJamo, .leadingJamo | .leadingJamo, .vowelJamo => true
  | .leadingJamo, .openSyllable | .leadingJamo, .closedSyllable => true
  | .openSyllable, .vowelJamo | .openSyllable, .trailingJamo => true
  | .vowelJamo, .vowelJamo | .vowelJamo, .trailingJamo => true
  | .closedSyllable, .trailingJamo | .trailingJamo, .trailingJamo => true
  | .regional, .regional => s.oddRegional
  | _, _ =>
    (s.conjunct = .linked && conjunctConsonantRanges.contains c) ||
      (s.pictograph = .joined && pictographicRanges.contains c)

/-- The clusters of a text whose first cluster has begun with `current`, in reverse. -/
def clustersFrom (s : ClusterState) (current : List Char) : List Char → List (List Char)
  | [] => [current.reverse]
  | c :: rest =>
    if s.joins c then clustersFrom (ClusterState.next (some s) c) (c :: current) rest
    else current.reverse :: clustersFrom (ClusterState.next none c) [c] rest

/-- The extended grapheme clusters of a text. -/
def clusters : List Char → List (List Char)
  | [] => []
  | c :: rest => clustersFrom (ClusterState.next none c) [c] rest

/-- The character that takes back the cluster before it. -/
def backspace : Char := '\x08'

/-- The text that stays and the lengths of its clusters, both the last one first. -/
structure Retraction where
  kept : List Char := []
  lengths : List Nat := []

/-- How many bytes a backspace takes for a cluster: lengths are kept in one byte. -/
def takenLength (cluster : List Char) : Nat := byteLength cluster % 256

/-- Takes the last characters of a reversed text as long as they fit into a number of bytes. -/
def dropBytes (length : Nat) (kept : List Char) : List Char :=
  kept.drop (fitting length kept).length

/-- The text after one more cluster. A backspace takes back the length of the cluster before it. -/
def Retraction.step (r : Retraction) (cluster : List Char) : Retraction :=
  if cluster = [backspace] then
    match r.lengths with
    | [] => r
    | length :: lengths => { kept := dropBytes length r.kept, lengths }
  else
    { kept := cluster.reverse ++ r.kept, lengths := takenLength cluster :: r.lengths }

def applyBackspaces (cs : List Char) : List Char :=
  ((clusters cs).foldl Retraction.step {}).kept.reverse

end LineShell.Text
