import LineShell.Machine.Pattern

/-!
# Search expressions

A search expression describes texts that may stand anywhere in a line. It has two spellings: in the
basic one grouping, choice and bounds are written with a backslash, in the extended one without.
Matching keeps all spots that the expression can lead to, the most eager first.
-/

namespace LineShell.Machine

inductive Search where
  | nothing
  | exactly (c : Char)
  | anyByte
  | oneOf (inverted : Bool) (members : List Pattern.Member)
  /-- Stands at a place that a test of the bytes before and after it accepts. -/
  | place (test : Option Char → Option Char → Bool)
  | both (first second : Search)
  | either (first second : Search)
  | repeated (inner : Search) (least : Nat) (most : Option Nat)
  | group (number : Nat) (inner : Search)
  | again (number : Nat)

namespace Search

/-- A place in a line: what is before it, the last byte first, what is after it, and what the groups
took. -/
structure Spot where
  before : Octets
  after : Octets
  groups : List (Nat × Octets)
  deriving DecidableEq

def Spot.start (line : Octets) : Spot := ⟨[], line, []⟩

def Spot.skip (spot : Spot) (count : Nat) : Spot :=
  { spot with
    before := (spot.after.take count).reverse ++ spot.before
    after := spot.after.drop count }

def Spot.between (first last : Spot) : Octets :=
  (last.before.take (last.before.length - first.before.length)).reverse

def distinctSpots (spots : List Spot) : List Spot :=
  spots.foldl (fun seen spot => if seen.contains spot then seen else seen ++ [spot]) []

/-- A letter without its case if case does not count. -/
def folded (foldsCase : Bool) (c : Char) : Char := if foldsCase then c.toLower else c

def isMember (foldsCase : Bool) (members : List Pattern.Member) (c : Char) : Bool :=
  let has (c : Char) : Bool := members.any (Pattern.Member.holds c)
  has c || (foldsCase && (has c.toLower || has c.toUpper))

/-- Steps over one byte if it satisfies a test. -/
def step (test : Char → Bool) (spot : Spot) : List Spot :=
  match spot.after with
  | c :: _ => if test c then [spot.skip 1] else []
  | [] => []

/-- The spots after a number of turns, down to a number of turns. A turn that leads nowhere new ends
them. -/
def turns (next : Spot → List Spot) : (fuel : Nat) → (least : Nat) → (most : Option Nat) →
    List Spot → List Spot
  | 0, _, _, spots => spots
  | fuel + 1, least, most, spots =>
    if most = some 0 || spots.isEmpty then spots
    else
      let later := distinctSpots (spots.flatMap next)
      let later := if least = 0 then later.filter fun spot => !spots.contains spot else later
      let ends := turns next fuel (least - 1) (most.map (· - 1)) later
      if least = 0 then distinctSpots (ends ++ spots) else ends

/-- The spots that an expression leads to from a spot. -/
def spots (foldsCase : Bool) : Search → Spot → List Spot
  | .nothing, spot => [spot]
  | .exactly c, spot => step (fun d => folded foldsCase c = folded foldsCase d) spot
  | .anyByte, spot => step (fun _ => true) spot
  | .oneOf inverted members, spot => step (fun c => isMember foldsCase members c != inverted) spot
  | .place test, spot => if test spot.before.head? spot.after.head? then [spot] else []
  | .both first second, spot =>
    distinctSpots ((spots foldsCase first spot).flatMap (spots foldsCase second))
  | .either first second, spot => spots foldsCase first spot ++ spots foldsCase second spot
  | .repeated inner least most, spot =>
    turns (spots foldsCase inner) (spot.after.length + least + 1) least most [spot]
  | .group number inner, spot =>
    (spots foldsCase inner spot).map fun last =>
      { last with groups := (number, spot.between last) :: last.groups.filter (·.1 != number) }
  | .again number, spot =>
    match spot.groups.lookup number with
    | none => []
    | some text =>
      let here := spot.after.take text.length
      if here.map (folded foldsCase) = text.map (folded foldsCase) then [spot.skip text.length]
      else []

def longest? (foldsCase : Bool) (e : Search) (spot : Spot) : Option Spot :=
  (spots foldsCase e spot).foldl
    (fun best next =>
      match best with
      | none => some next
      | some last => if last.before.length < next.before.length then some next else best) none

/-- The first match in what is after a spot, the longest of those that begin there: where it begins
and where it ends. -/
def firstMatch? (foldsCase : Bool) (e : Search) (spot : Spot) : Option (Spot × Spot) :=
  (List.range (spot.after.length + 1)).findSome? fun count =>
    let first := spot.skip count
    (longest? foldsCase e first).map fun last => (first, last)

def isWordByte (c : Option Char) : Bool := c.any isNameByte

/-- The places that a letter after a backslash stands for. -/
def placeOf? (letter : Char) : Option Search :=
  match letter with
  | '<' => some (.place fun before after => !isWordByte before && isWordByte after)
  | '>' => some (.place fun before after => isWordByte before && !isWordByte after)
  | 'b' => some (.place fun before after => isWordByte before != isWordByte after)
  | 'B' => some (.place fun before after => isWordByte before = isWordByte after)
  | '\x60' => some (.place fun before _ => before.isNone)
  | '\'' => some (.place fun _ after => after.isNone)
  | _ => none

/-- The sets that a letter after a backslash stands for. -/
def setOf? (letter : Char) : Option Search :=
  match letter with
  | 'w' => some (.oneOf false [.group isNameByte])
  | 'W' => some (.oneOf true [.group isNameByte])
  | 's' => some (.oneOf false [.group isWhiteByte])
  | 'S' => some (.oneOf true [.group isWhiteByte])
  | _ => none

def lineStart : Search := .place fun before _ => before.isNone

def lineEnd : Search := .place fun _ after => after.isNone

/-- What is wrong with the spelling of an expression. -/
inductive Fault where
  | emptyBracket
  | openBracket
  | rangeEnd
  | openGroup
  | closedGroup
  | openBound
  | bound
  | tooBig
  | trailingBackslash
  | noSuchGroup
  | noSuchSet
  | noSuchSign
  deriving DecidableEq, Repr

def Fault.text : Fault → Octets
  | .emptyBracket => "Invalid regular expression"
  | .openBracket => "Unmatched [, [^, [:, [., or [="
  | .rangeEnd => "Invalid range end"
  | .openGroup => "Unmatched ( or \\("
  | .closedGroup => "Unmatched ) or \\)"
  | .openBound => "Unmatched \\\x7b"
  | .bound => "Invalid content of \\\x7b\\\x7d"
  | .tooBig => "Regular expression too big"
  | .trailingBackslash => "Trailing backslash"
  | .noSuchGroup => "Invalid back reference"
  | .noSuchSet => "Invalid character class name"
  | .noSuchSign => "Invalid collation character"

/-- What is strange about the spelling of an expression that can be read. -/
inductive Note where
  | needless (sign : Octets)
  | confusing
  deriving DecidableEq, Repr

def Note.text : Note → Octets
  | .needless sign => "warning: " ++ sign ++ " at start of expression"
  | .confusing => "character class syntax is [[:space:]], not [:space:]"

/-- The name that a bracket with a mark begins, up to the mark and a closing bracket. -/
def named? (mark : Char) : Octets → Option (Octets × Octets)
  | [] => none
  | c :: rest =>
    if c = mark && rest.head? = some ']' then some ([], rest.drop 1)
    else (named? mark rest).map fun (name, rest) => (c :: name, rest)

/-- One member that a text in brackets begins with, and whether it may begin a range. A dash is a
member at the ends of the set and at those of a range only. -/
def member? (allowsDash : Bool) (text : Octets) : Except Fault (Pattern.Member × Bool × Octets) :=
  let signed (mark : Char) (isEnd : Bool) (rest : Octets) :=
    match named? mark rest with
    | some ([c], rest) => .ok (.range c c, isEnd, rest)
    | some _ => .error .noSuchSign
    | none => .error .openBracket
  match text with
  | '[' :: ':' :: rest =>
    match named? ':' rest with
    | none => .error .openBracket
    | some (name, rest) =>
      match Pattern.groups.lookup (String.ofList name) with
      | some test => .ok (.group test, false, rest)
      | none => .error .noSuchSet
  | '[' :: '=' :: rest => signed '=' false rest
  | '[' :: '.' :: rest => signed '.' true rest
  | '-' :: rest =>
    if allowsDash || rest.head? = some ']' then .ok (.range '-' '-', true, rest)
    else .error .rangeEnd
  | c :: rest => .ok (.range c c, true, rest)
  | [] => .error .openBracket

/-- A member with the end of the range that it may begin, and what follows. -/
def range? (isFirst : Bool) (text : Octets) : Except Fault (Pattern.Member × Octets) := do
  let (low, isEnd, rest) ← member? isFirst text
  match low, isEnd, rest with
  | .range low _, true, '-' :: after =>
    if after.head? = some ']' then return (.range low low, rest)
    else
      let (high, isEnd, rest) ← member? true after
      match high, isEnd with
      | .range high _, true => if high < low then throw .rangeEnd else return (.range low high, rest)
      | _, _ => throw .rangeEnd
  | member, _, rest => return (member, rest)

/-- The members of a set up to the closing bracket, and what follows it. The first byte is a member
whatever it is. -/
def members (isFirst : Bool) : (fuel : Nat) → Octets → Except Fault (List Pattern.Member × Octets)
  | 0, _ => .error .openBracket
  | fuel + 1, text =>
    match text with
    | [] => .error .openBracket
    | c :: rest =>
      if c = ']' && !isFirst then .ok ([], rest)
      else do
        let (member, rest) ← range? isFirst (c :: rest)
        let (more, rest) ← members false fuel rest
        return (member :: more, rest)

/-- Whether single bytes make up a set that looks like the name of a group. -/
def isConfusing (members : List Pattern.Member) : Bool :=
  let bytes := members.map fun member =>
    match member with
    | .range low high => if low = high then some low else none
    | .group _ => none
  bytes.all Option.isSome && bytes.head? = some (some ':') && bytes.getLast? = some (some ':') &&
    bytes.any (· != some ':')

/-- The set that a text after a bracket begins with, what is strange about it, and what follows. -/
def set (text : Octets) : Except Fault (Search × List Note × Octets) := do
  let (inverted, inside) :=
    match text with
    | '^' :: rest => (true, rest)
    | text => (false, text)
  if inside.isEmpty then throw .emptyBracket
  let (found, rest) ← members true (inside.length + 1) inside
  return (.oneOf inverted found, if isConfusing found then [.confusing] else [], rest)

/-- The greatest number of turns that can be asked for. -/
def greatestBound : Nat := 32767

/-- What a text after an opening brace begins with: bounds, a fault, or nothing of the kind. -/
inductive Bounds where
  | turns (least : Nat) (most : Option Nat) (rest : Octets)
  | fault (fault : Fault)
  /-- A bound goes on to the end of the text or is not a number. -/
  | unclear (fault : Fault)

/-- What ends the first bound of a text, if it ends: whether it is the brace, and what follows. -/
def boundEnd? (extended : Bool) (text : Octets) : Option (Bool × Octets) :=
  match extended, text with
  | _, ',' :: rest => some (false, rest)
  | true, '\x7d' :: rest => some (true, rest)
  | false, '\\' :: '\x7d' :: rest => some (true, rest)
  | _, _ => none

/-- One bound that a text begins with, whether the brace ends it, and what follows. -/
def bound? (extended : Bool) : Octets → Option (Octets × Bool × Octets)
  | [] => none
  | c :: text =>
    match boundEnd? extended (c :: text) with
    | some (isLast, rest) => some ([], isLast, rest)
    | none => (bound? extended text).map fun (digits, isLast, rest) => (c :: digits, isLast, rest)

/-- The bounds that a text after an opening brace begins with. -/
def bounds (extended : Bool) (text : Octets) : Bounds :=
  let checked (least : Nat) (most : Option Nat) (rest : Octets) : Bounds :=
    if most.any (· < least) then .fault .bound
    else if greatestBound < most.getD least then .fault .tooBig
    else .turns least most rest
  match bound? extended text with
  | none => .unclear .openBound
  | some ([], true, _) => .fault .bound
  | some (low, isLast, rest) =>
    if !low.all Char.isDigit then .unclear .bound
    else if isLast then checked (numberIn 10 low) (some (numberIn 10 low)) rest
    else
      match bound? extended rest with
      | none => .unclear .openBound
      | some (high, isLast, rest) =>
        if !high.all Char.isDigit then .unclear .bound
        else if !isLast then .fault .bound
        else checked (numberIn 10 low) (if high.isEmpty then none else some (numberIn 10 high)) rest

/-- What a text begins with, in one of the spellings. -/
inductive Sign where
  | finish
  | choice
  | opening
  | closing
  | turns (least : Nat) (most : Option Nat) (shown : Octets)
  | single (e : Search) (notes : List Note)
  | fault (fault : Fault)

/-- The sign of an expression that needs no note. -/
def Sign.plain (e : Search) : Sign := .single e []

/-- What has been read of an expression: the alternatives that are complete, the sequence that is
being read without its last part, that part if there is one, and whether all parts of the sequence
are places. -/
structure Draft where
  earlier : Option Search
  done : Search
  last : Option Search
  isBare : Bool

namespace Draft

def sequence (d : Draft) : Search :=
  match d.last with
  | none => d.done
  | some last => .both d.done last

def whole (d : Draft) : Search :=
  match d.earlier with
  | none => d.sequence
  | some earlier => .either earlier d.sequence

def empty : Draft := ⟨none, .nothing, none, true⟩

/-- The draft at the start of one more alternative. -/
def next (d : Draft) : Draft := { empty with earlier := some d.whole }

def add (d : Draft) (e : Search) : Draft :=
  let isPlace : Bool :=
    match e with
    | .place _ => true
    | _ => false
  ⟨d.earlier, d.sequence, some e, d.isBare && isPlace⟩

end Draft

/-- The bounds or the brace that a text after an opening brace begins with. In the basic spelling a
brace with nothing before it stands for itself, in the extended one a brace without clear bounds. -/
def braceSign (extended isBare : Bool) (text : Octets) : Sign × Octets :=
  let brace : Sign × Octets := (.plain (.exactly '\x7b'), text)
  if isBare && !extended then brace
  else
    match bounds extended text with
    | .turns least most rest => (.turns least most "\x7b...\x7d", rest)
    | .fault fault => if isBare then brace else (.fault fault, [])
    | .unclear fault => if extended then brace else (.fault fault, [])

def escapedSign (extended : Bool) (d : Draft) (c : Char) (rest : Octets) : Sign × Octets :=
  let basic (s : Sign) : Sign × Octets := (if extended then .plain (.exactly c) else s, rest)
  let turns (s : Sign) : Sign × Octets := basic (if d.isBare then .plain (.exactly c) else s)
  match c with
  | '(' => basic .opening
  | ')' => basic .closing
  | '|' => basic .choice
  | '+' => turns (.turns 1 none ['+'])
  | '?' => turns (.turns 0 (some 1) ['?'])
  | '\x7b' => if extended then (.plain (.exactly c), rest) else braceSign extended d.isBare rest
  | _ =>
    if c.isDigit && c != '0' then (.plain (.again (c.toNat - '0'.toNat)), rest)
    else (.plain (((placeOf? c).orElse fun _ => setOf? c).getD (.exactly c)), rest)

/-- The sign of a byte that means something in the extended spelling only. -/
def extendedSign (d : Draft) (c : Char) (rest : Octets) : Sign × Octets :=
  match c with
  | '(' => (.opening, rest)
  | ')' => (.closing, rest)
  | '|' => (.choice, rest)
  | '+' => (.turns 1 none ['+'], rest)
  | '?' => (.turns 0 (some 1) ['?'], rest)
  | '\x7b' => braceSign true d.isBare rest
  | c => (.plain (.exactly c), rest)

/-- The first sign of a text and what follows it. A sign for turns with nothing before it stands for
itself in the basic spelling, and so do signs for the ends of a line that are not at an end. -/
def sign (extended : Bool) (d : Draft) (text : Octets) : Sign × Octets :=
  match text with
  | [] => (.finish, [])
  | '\\' :: [] => (.fault .trailingBackslash, [])
  | '\\' :: c :: rest => escapedSign extended d c rest
  | '[' :: rest =>
    match set rest with
    | .ok (e, notes, rest) => (.single e notes, rest)
    | .error fault => (.fault fault, [])
  | '.' :: rest => (.plain .anyByte, rest)
  | '*' :: rest =>
    (if d.isBare && !extended then .plain (.exactly '*') else .turns 0 none ['*'], rest)
  | '^' :: rest =>
    (.plain (if extended || d.last.isNone then lineStart else .exactly '^'), rest)
  | '$' :: rest =>
    let isEnd := rest.isEmpty || startsWith "\\)" rest || startsWith "\\|" rest
    (.plain (if extended || isEnd then lineEnd else .exactly '$'), rest)
  | c :: rest => if extended then extendedSign d c rest else (.plain (.exactly c), rest)

/-- How far an expression has been read. -/
structure Progress where
  /-- The groups that are open, each with its number and what was read before it. -/
  around : List (Nat × Draft) := []
  draft : Draft := .empty
  groups : Nat := 0
  notes : List Note := []
  /-- A sign for turns with nothing before it has just been read. -/
  isAfterNeedless : Bool := false

namespace Progress

def add (p : Progress) (e : Search) : Progress :=
  { p with draft := p.draft.add e, isAfterNeedless := false }

/-- The progress at the end of a group. Where no group can end here, the extended spelling has the
parenthesis itself. -/
def close (extended : Bool) (p : Progress) : Except Fault Progress :=
  match p.isAfterNeedless, p.around with
  | false, (number, outer) :: around =>
    .ok { p with around, draft := outer.add (.group number p.draft.whole) }
  | _, _ => if extended then .ok (p.add (.exactly ')')) else .error .closedGroup

def turn (p : Progress) (least : Nat) (most : Option Nat) (shown : Octets) : Progress :=
  let draft : Draft :=
    { p.draft with last := p.draft.last.map fun e => .repeated e least most }
  if p.draft.isBare then
    { p with draft, notes := p.notes ++ [.needless shown], isAfterNeedless := true }
  else { p with draft }

def step (extended : Bool) (p : Progress) : Sign → Except Fault Progress
  | .finish => .ok p
  | .fault fault => .error fault
  | .choice => .ok { p with draft := p.draft.next, isAfterNeedless := false }
  | .opening =>
    .ok { p with
      around := (p.groups + 1, p.draft) :: p.around
      draft := .empty
      groups := p.groups + 1
      isAfterNeedless := false }
  | .closing => p.close extended
  | .turns least most shown => .ok (p.turn least most shown)
  | .single (.again number) _ =>
    if p.groups < number then .error .noSuchGroup else .ok (p.add (.again number))
  | .single e notes => .ok ({ p with notes := p.notes ++ notes }.add e)

end Progress

/-- An expression that has been read, and what is strange about its spelling. -/
structure Reading where
  expression : Search
  notes : List Note := []

def readFrom (extended : Bool) : (fuel : Nat) → Progress → Octets → Except Fault Reading
  | 0, p, _ => .ok ⟨p.draft.whole, p.notes⟩
  | fuel + 1, p, text =>
    match sign extended p.draft text with
    | (.finish, _) => if p.around.isEmpty then .ok ⟨p.draft.whole, p.notes⟩ else .error .openGroup
    | (next, rest) => p.step extended next >>= fun p => readFrom extended fuel p rest

def read (extended : Bool) (text : Octets) : Except Fault Reading :=
  readFrom extended (text.length + 1) {} text

def hasGroup : Search → Bool
  | .group _ _ => true
  | .both first second | .either first second => hasGroup first || hasGroup second
  | .repeated inner _ _ => hasGroup inner
  | _ => false

def ofText (text : Octets) : Search :=
  text.foldr (fun c rest => .both (.exactly c) rest) .nothing

end Search

end LineShell.Machine
