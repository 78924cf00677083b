import LineShell.Machine.Format
import LineShell.Machine.Tools.Basic

/-!
# Sequences

A program that prints the numbers from one to another. Sums are exact; how a number is written
follows from how the operands are written.
-/

namespace LineShell.Machine.Tools

structure SequenceEnd where
  value : Fraction
  /-- The length of the text without a sign, once an exponent has been carried out. -/
  width : Int
  /-- The digits after the point, if they can be told. -/
  places : Option Nat

namespace SequenceEnd

def one : SequenceEnd := ⟨.fraction false 1 1, 1, some 0⟩

/-- The width and the digits after the point of a text with an exponent or without one. -/
def measured (text : Octets) : Int × Nat :=
  let isMark (c : Char) : Bool := c = 'e' || c = 'E'
  let mantissa := text.takeWhile fun c => !isMark c
  let whole := mantissa.takeWhile (· != '.')
  let hasPoint : Bool := whole.length != mantissa.length
  let length := mantissa.length - (whole.length + 1)
  let fixed : Int :=
    if !hasPoint then 0
    else if length = 0 then -1
    else if whole.getLast?.any Char.isDigit then 0
    else 1
  match text.drop mantissa.length with
  | [] => (text.length + fixed, length)
  | _ :: exponent =>
    let e := (integer? 10 exponent).getD 0
    let size := e.natAbs
    if e < 0 then
      let undone : Int := if !hasPoint || length = 0 then 1 else 0
      (mantissa.length + fixed + undone + size, length + size)
    else
      let places := length - size
      let dropped : Int := if hasPoint && places = 0 && 0 < length then -1 else 0
      (mantissa.length + fixed + dropped + (size - length : Nat), places)

/-- The operand that a text says. An error tells whether the text says what is no number. -/
def read (text : Octets) : Except Bool SequenceEnd :=
  match Fraction.read? text with
  | some (.undefined _, []) => .error true
  | some (value, []) =>
    let bare := text.dropWhile fun c => isWhiteByte c || c = '+'
    let isFinite : Bool :=
      match value with
      | .fraction .. => true
      | _ => false
    if isFinite && !bare.any (fun c => c = 'x' || c = 'X') then
      let (width, places) := measured bare
      .ok ⟨value, width, some places⟩
    else
      .ok ⟨value, 0, if bare.contains '.' || bare.contains 'p' then none else some 0⟩
  | _ => .error false

/-- The numerator and the denominator of the value; nothing of what has no end. -/
def ratio? (s : SequenceEnd) : Option (Int × Nat) :=
  match s.value with
  | .fraction negative n d => some (if negative then -(n : Int) else n, d)
  | _ => none

end SequenceEnd

/-- How a number is written between two texts. -/
structure NumberFormat where
  before : Octets := []
  conversion : Conversion
  after : Octets := []

namespace NumberFormat

/-- The text before the first conversion, and what follows it from its sign on. -/
def plainPart : Octets → Octets × Octets
  | '%' :: '%' :: rest =>
    let (text, after) := plainPart rest
    ('%' :: text, after)
  | '%' :: rest => ([], '%' :: rest)
  | c :: rest =>
    let (text, after) := plainPart rest
    (c :: text, after)
  | [] => ([], [])

def read (text : Octets) : Except Octets NumberFormat :=
  let wrong (what : Octets) : Except Octets NumberFormat :=
    .error ("format " ++ quotedWord text ++ what)
  let (before, rest) := plainPart text
  if rest.isEmpty then wrong " has no % directive"
  else
    let rest := rest.drop 1
    let flags := rest.takeWhile ("-+#0 '".toList.contains ·)
    let rest := rest.drop flags.length
    let width := rest.takeWhile Char.isDigit
    let rest := rest.drop width.length
    let (precision, rest) : Option Octets × Octets :=
      match rest with
      | '.' :: rest =>
        let digits := rest.takeWhile Char.isDigit
        (some digits, rest.drop digits.length)
      | rest => (none, rest)
    let rest := if rest.head? = some 'L' then rest.drop 1 else rest
    match rest with
    | [] => wrong " ends in %"
    | letter :: rest =>
      if !"efgaEFGA".toList.contains letter then
        wrong (" has unknown %" ++ [letter] ++ " directive")
      else
        let (after, more) := plainPart rest
        if !more.isEmpty then wrong " has too many % directives"
        else
          let bare : Conversion :=
            { width := numberIn 10 width, precision := precision.map (numberIn 10), letter }
          .ok { before, conversion := flags.foldl Conversion.withFlag bare, after }

/-- The format that follows from how the operands are written. -/
def ofEnds (sameWidth : Bool) (first step last : SequenceEnd) : NumberFormat :=
  match first.places, step.places, last.places with
  | some p, some q, some r =>
    let places := max p q
    let point (own : Nat) : Int :=
      (places : Int) - own + (if own = 0 && 0 < places then 1 else 0) -
        (if 0 < own && places = 0 then 1 else 0)
    let width : Int :=
      max (first.width + ((places : Int) - p) + (if p = 0 && 0 < places then 1 else 0))
        (last.width + point r)
    { conversion := {
        zeros := sameWidth, width := if sameWidth then width.toNat else 0
        precision := some places, letter := 'f' } }
  | _, _, _ => { conversion := { letter := 'g' } }

def write (f : NumberFormat) (value : Fraction) : Octets :=
  f.before ++ Fraction.write f.conversion value ++ f.after

end NumberFormat

def longestSequence : Nat := 100000

def sequenceNumbers (first step last : SequenceEnd) : List Fraction :=
  match first.ratio?, step.ratio? with
  | some (a, da), some (b, db) =>
    let (l, dl) := last.ratio?.getD (0, 1)
    let (from_, by_, to_) := (a * db * dl, b * da * dl, l * da * db)
    let common := da * db * dl
    let count : Nat :=
      match last.value with
      | .fraction .. =>
        if (0 < by_ && to_ < from_) || (by_ < 0 && from_ < to_) then 0
        else (to_ - from_).natAbs / by_.natAbs + 1
      | .infinite negative => if negative = (by_ < 0 : Bool) then longestSequence else 0
      | .undefined _ => 0
    (List.range (min longestSequence count)).map fun (n : Nat) =>
      let value := from_ + by_ * (n : Int)
      (Fraction.fraction (value < 0) value.natAbs common).inBits 64
  | _, _ => []

/-- The arguments of `seq`: its options end where a negative number stands. -/
def sequenceOptions : (fuel : Nat) → List Octets → Except Octets Given
  | 0, args => .ok ⟨[], args⟩
  | fuel + 1, args =>
    let choices : List Choice :=
      [⟨'f', "format", .value⟩, ⟨'s', "separator", .value⟩, ⟨'w', "equal-width", .nothing⟩]
    match args with
    | ['-', '-'] :: later => .ok ⟨[], later⟩
    | ('-' :: '-' :: name) :: later =>
      match readLong choices name later with
      | .error text => .error text
      | .ok ((key, value), later) => (sequenceOptions fuel later).map (·.after key value)
    | ('-' :: c :: rest) :: later =>
      if c.isDigit || c = '.' then .ok ⟨[], args⟩
      else
        match readLetters choices (c :: rest) later with
        | .error text => .error text
        | .ok (first, later) =>
          (sequenceOptions fuel later).map fun given => { given with set_ := first ++ given.set_ }
    | _ => .ok ⟨[], args⟩

/-- The operands as the ends of a sequence and the step between its numbers. -/
def sequenceEnds (texts : List Octets) :
    Except Octets (SequenceEnd × SequenceEnd × SequenceEnd) := do
  let read (text : Octets) : Except Octets SequenceEnd :=
    match SequenceEnd.read text with
    | .ok s => .ok s
    | .error true => .error ("invalid 'not-a-number' argument: " ++ quotedWord text)
    | .error false => .error ("invalid floating point argument: " ++ quotedWord text)
  match texts with
  | [last] => return (.one, .one, ← read last)
  | [first, last] =>
    let first ← read first
    return (first, .one, ← read last)
  | first :: step :: last :: _ =>
    let first ← read first
    let ⟨value, width, places⟩ ← read step
    if (SequenceEnd.ratio? ⟨value, width, places⟩).any (·.1 = 0) then
      throw ("invalid Zero increment value: " ++ quotedWord step)
    return (first, ⟨value, width, places⟩, ← read last)
  | [] => return (.one, .one, .one)

def seq (args : List Octets) : Act Nat := do
  match sequenceOptions (args.length + 1) args with
  | .error text => misuse 1 text
  | .ok given =>
    match given.operands with
    | [] => misuse 1 "missing operand"
    | _ :: _ :: _ :: extra :: _ => misuse 1 ("extra operand " ++ quotedWord extra)
    | operands =>
      let format : Except Octets (Option NumberFormat) := (given.value? "f").mapM NumberFormat.read
      match format, sequenceEnds operands with
      | .error text, _ => refuse text
      | .ok format, ends =>
        if given.has "w" && format.isSome then
          misuse 1 "format string may not be specified when printing equal width strings"
        else
          match ends with
          | .error text => misuse 1 text
          | .ok (first, step, last) =>
            let format := format.getD (NumberFormat.ofEnds (given.has "w") first step last)
            let separator := (given.value? "s").getD ['\n']
            let texts := (sequenceNumbers first step last).map format.write
            unless texts.isEmpty do say (line (joined separator texts))
            return 0

end LineShell.Machine.Tools
