import LineShell.Machine.Escape
import LineShell.Machine.Pattern
import LineShell.Machine.Tools.Basic

/-!
# Translating bytes

A program that replaces, drops or squeezes the bytes of its input that are in a set. A set is
described by bytes, ranges, groups of bytes and repetitions.
-/

namespace LineShell.Machine.Tools

inductive SetPart where
  | byte (c : Char)
  | range (low high : Char)
  | group (name : Octets)
  | equals (c : Char)
  /-- A byte so many times; without a number as often as is needed. -/
  | repeated (c : Char) (count : Option Nat)

/-- A byte of a description; one that followed a backslash stands for itself. -/
structure Sign where
  byte : Char
  isEscaped : Bool

/-- Whether a byte of a description has its own meaning. -/
def Sign.means (s : Sign) (c : Char) : Bool := s.byte = c && !s.isEscaped

namespace SetPart

/-- The bytes of a description, with what follows a backslash taken as one byte. Warnings come with
them. -/
def signs : (fuel : Nat) → Octets → List Sign × List Octets
  | 0, _ => ([], [])
  | fuel + 1, text =>
    match text with
    | [] => ([], [])
    | ['\\'] =>
      ([⟨'\\', false⟩], ["warning: an unescaped backslash at end of string is not portable"])
    | '\\' :: c :: rest =>
      let digits := (c :: rest).takeWhile (isDigitIn 8)
      if digits.isEmpty then
        let named := [('a', '\x07'), ('b', '\x08'), ('f', '\x0c'), ('n', '\n'), ('r', '\r'),
          ('t', '\t'), ('v', '\x0b')].lookup c
        let (later, warnings) := signs fuel rest
        (⟨named.getD c, true⟩ :: later, warnings)
      else
        let three := digits.take 3
        let isTooLarge := 255 < numberIn 8 three
        let used := if isTooLarge then three.take 2 else three
        let (later, warnings) := signs fuel ((c :: rest).drop used.length)
        let warning : Octets :=
          "warning: the ambiguous octal escape \\" ++ three ++
            " is being\n\tinterpreted as the 2-byte sequence \\0" ++ used ++ ", " ++ three.drop 2
        (⟨Char.ofNat (numberIn 8 used), true⟩ :: later,
          if isTooLarge then warning :: warnings else warnings)
    | c :: rest =>
      let (later, warnings) := signs fuel rest
      (⟨c, false⟩ :: later, warnings)

def named (c : Char) : Octets := if isPrinted c then [c] else nameEscape c

/-- What stands before a mark and a closing bracket, and what follows them. -/
def enclosed? (mark : Char) : List Sign → Option (List Sign × List Sign)
  | x :: y :: rest =>
    if x.means mark && y.means ']' then some ([], rest)
    else (enclosed? mark (y :: rest)).map fun (inside, after) => (x :: inside, after)
  | _ => none

/-- The digits of a repetition up to its bracket, and what follows it. -/
def repetition? : List Sign → Option (Octets × List Sign)
  | [] => none
  | s :: rest =>
    if s.isEscaped then none
    else if s.byte = ']' then some ([], rest)
    else (repetition? rest).map fun (digits, after) => (s.byte :: digits, after)

/-- Whether a star, digits and a bracket follow. -/
def isRepetition (text : List Sign) : Bool :=
  match text with
  | star :: rest =>
    star.means '*' && ((rest.dropWhile fun s => s.byte.isDigit).head?.any fun s => s.byte = ']')
  | [] => false

/-- The number that a repetition says. One that starts with a zero is octal. -/
def repetitionCount? (digits : Octets) : Option (Option Nat) :=
  if digits.isEmpty then some none
  else
    let base := if digits.head? = some '0' then 8 else 10
    if digits.all (isDigitIn base) then
      let n := numberIn base digits
      some (if n = 0 then none else some n)
    else none

/-- The part in brackets that signs start with, after the opening one. -/
def bracketed? (text : List Sign) : Except Octets (Option (SetPart × List Sign)) := do
  let repetition : Except Octets (Option (SetPart × List Sign)) :=
    match text with
    | c :: star :: rest =>
      if !star.means '*' then .ok none
      else
        match repetition? rest with
        | none => .ok none
        | some (digits, after) =>
          match repetitionCount? digits with
          | some count => .ok (some (.repeated c.byte count, after))
          | none =>
            .error ("invalid repeat count " ++ quotedWord digits ++ " in [c*n] construct")
    | _ => .ok none
  match text with
  | kind :: rest =>
    if kind.means ':' || kind.means '=' then
      match enclosed? kind.byte rest with
      | none => repetition
      | some (inside, after) =>
        let name := inside.map (·.byte)
        if kind.byte = ':' then
          if name.isEmpty then .error "missing character class name '[::]'"
          else if (Pattern.groups.lookup (String.ofList name)).isSome then
            .ok (some (.group name, after))
          else if isRepetition rest then repetition
          else .error ("invalid character class " ++ quotedWord (name.flatMap named))
        else
          match name with
          | [] => .error "missing equivalence class character '[==]'"
          | [c] => .ok (some (.equals c, after))
          | _ =>
            if isRepetition rest then repetition
            else
              .error (name.flatMap named ++
                ": equivalence class operand must be a single character")
    else repetition
  | [] => .ok none

def readFrom : (fuel : Nat) → List Sign → Except Octets (List SetPart)
  | 0, _ => .ok []
  | fuel + 1, text => do
    match text with
    | first :: second :: third :: rest =>
      let inBrackets ←
        if first.means '[' then bracketed? (second :: third :: rest) else pure none
      match inBrackets with
      | some (part, after) => return part :: (← readFrom fuel after)
      | none =>
        if second.means '-' then
          if third.byte < first.byte then
            throw ("range-endpoints of '" ++ named first.byte ++ ['-'] ++ named third.byte ++
              "' are in reverse collating sequence order")
          else return .range first.byte third.byte :: (← readFrom fuel rest)
        else return .byte first.byte :: (← readFrom fuel (second :: third :: rest))
    | text => return text.map fun s => .byte s.byte

def bytesBetween (low high : Char) : Octets :=
  (List.range (high.toNat + 1 - low.toNat)).map fun n => Char.ofNat (low.toNat + n)

/-- The bytes of a part, of which a repetition without a number has as many as are needed. -/
def bytes (needed : Nat) : SetPart → Octets
  | .byte c | .equals c => [c]
  | .range low high => bytesBetween low high
  | .group name =>
    match Pattern.groups.lookup (String.ofList name) with
    | some test => (bytesBetween '\x00' '\xff').filter test
    | none => []
  | .repeated c count => List.replicate (count.getD needed) c

/-- Whether a part is a group of letters of one case. -/
def isCase : SetPart → Bool
  | .group name => name = "upper" || name = "lower"
  | _ => false

def isGroup : SetPart → Bool
  | .group _ => true
  | _ => false

/-- Whether a part is a repetition without a number. -/
def isOpen : SetPart → Bool
  | .repeated _ none => true
  | _ => false

/-- Whether a part stands for the bytes that are equal to one. -/
def isEquals : SetPart → Bool
  | .equals _ => true
  | _ => false

/-- The places where groups of letters of one case begin, and parts at all, if every such group
counts as one byte. -/
def starts (place : Nat) : List SetPart → List (Nat × Bool)
  | [] => []
  | part :: rest =>
    let length := if part.isCase then 1 else (part.bytes 0).length
    (place, part.isCase) :: starts (place + length) rest

end SetPart

/-- The bytes that a program translates, drops or squeezes. -/
structure Translation where
  chosen : Octets
  others : Octets
  drops : Bool
  squeezes : Bool
  translates : Bool

namespace Translation

/-- Drops bytes of a set that repeat the one before them. -/
def squeezed (set_ : Octets) : Octets → Octets
  | c :: d :: rest =>
    if c = d && set_.contains c then squeezed set_ (d :: rest) else c :: squeezed set_ (d :: rest)
  | text => text

def apply (t : Translation) (text : Octets) : Octets :=
  let kept := if t.drops then text.filter fun c => !t.chosen.contains c else text
  let table := (t.chosen.zip t.others).reverse
  let replaced := if t.translates then kept.map fun c => (table.lookup c).getD c else kept
  if !t.squeezes then replaced
  else squeezed (if t.translates || t.drops then t.others else t.chosen) replaced

def replacements (inverts truncates : Bool) (first second : List SetPart) (chosen : Octets) :
    Except Octets Octets := do
  let fixed := (second.flatMap (SetPart.bytes 0)).length
  let others := second.flatMap (SetPart.bytes (chosen.length - fixed))
  if second.any SetPart.isEquals then
    throw ("[=c=] expressions may not appear in string2 when translating" : Octets)
  if second.any fun part => part.isGroup && !part.isCase then
    throw ("when translating, the only character classes that may appear in\n" ++
      "string2 are 'upper' and 'lower'" : Octets)
  let isAligned : Bool :=
    inverts || (SetPart.starts 0 second).all fun (place, isCase) =>
      !isCase || (SetPart.starts 0 first).contains (place, true)
  unless isAligned do throw ("misaligned [:upper:] and/or [:lower:] construct" : Octets)
  let extended ←
    if chosen.length ≤ others.length || truncates then pure others
    else
      match others.getLast?, second.getLast?.map SetPart.isGroup with
      | none, _ => throw ("when not truncating set1, string2 must be non-empty" : Octets)
      | _, some true =>
        throw ("when translating with string1 longer than string2,\n" ++
          "the latter string must not end with a character class" : Octets)
      | some last, _ =>
        pure (others ++ List.replicate (chosen.length - others.length) last)
  let isUniform := extended.length = chosen.length && extended.all fun c => some c = extended.head?
  if inverts && first.any SetPart.isGroup && !isUniform then
    throw ("when translating with complemented character classes,\n" ++
      "string2 must map all characters in the domain to one" : Octets)
  return extended

/-- The translation that two descriptions ask for. -/
def ofParts (given : Given) (first : List SetPart) (second : Option (List SetPart)) :
    Except Octets Translation := do
  let inverts := given.has "c" || given.has "C"
  let drops := given.has "d"
  let translates := second.isSome && !drops
  if first.any SetPart.isOpen then
    throw ("the [c*] repeat construct may not appear in string1" : Octets)
  let named := first.flatMap (SetPart.bytes 0)
  let chosen :=
    if inverts then (SetPart.bytesBetween '\x00' '\xff').filter fun c => !named.contains c
    else named
  let second := second.getD []
  if 1 < (second.filter SetPart.isOpen).length then
    throw ("only one [c*] repeat construct may appear in string2" : Octets)
  let others ←
    if translates then replacements inverts (given.has "t") first second chosen
    else if second.any SetPart.isOpen then
      throw ("the [c*] construct may appear in string2 only when translating" : Octets)
    else pure (second.flatMap (SetPart.bytes 0))
  return { chosen, others, drops, squeezes := given.has "s", translates }

end Translation

/-- Replaces, drops or squeezes the bytes of its input that are in a set. -/
def tr (args : List Octets) : Act Nat := do
  let choices : List Choice :=
    [⟨'c', "complement", .nothing⟩, ⟨'C', "", .nothing⟩, ⟨'d', "delete", .nothing⟩,
      ⟨'s', "squeeze-repeats", .nothing⟩, ⟨'t', "truncate-set1", .nothing⟩]
  let refused (text : Octets) (detail : Option Octets) : Act Nat :=
    Refusal.answer { text, details := detail.toList, pointsToHelp := true }
  match Tools.readFrom choices true (args.length + 1) args with
  | .error text => misuse 1 text
  | .ok given =>
    let drops := given.has "d"
    let squeezes := given.has "s"
    let least := if drops = squeezes then 2 else 1
    let most := if drops && !squeezes then 1 else 2
    let texts := given.operands
    match texts.getLast?, texts[most]? with
    | none, _ => misuse 1 "missing operand"
    | _, some extra =>
      refused ("extra operand " ++ quotedWord extra)
        (if texts.length = 2 then
          some "Only one string may be given when deleting without squeezing repeats." else none)
    | some last, none =>
      if texts.length < least then
        refused ("missing operand after " ++ quotedWord last)
          (some (if squeezes then
            "Two strings must be given when both deleting and squeezing repeats."
            else "Two strings must be given when translating."))
      else
        let read (text : Octets) : Act (Except Octets (List SetPart)) := do
          let (signs, warnings) := SetPart.signs (text.length + 1) text
          for warning in warnings do complain warning
          return SetPart.readFrom (signs.length + 1) signs
        let first ← read (texts.headD [])
        match first with
        | .error text => refuse text
        | .ok first =>
          let second ← texts[1]?.mapM read
          let translation : Except Octets Translation := do
            let second ← match second with
              | none => pure none
              | some parts => parts.map some
            Translation.ofParts given first second
          match translation with
          | .error text => refuse text
          | .ok translation =>
            match ← readRest 0 with
            | .error e => refuseOf "read error" e
            | .ok data =>
              say (translation.apply data)
              return 0

end LineShell.Machine.Tools
