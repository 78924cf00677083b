import LineShell.Machine.Numeral
import LineShell.Machine.Search
import LineShell.Machine.Tools.Basic

/-!
# Computing

A program whose arguments are an expression of numbers and texts. A part that does not count, after
the first part of a choice has decided, is read but not computed.
-/

namespace LineShell.Machine.Tools.Computing

/-- What keeps an expression from having a value. -/
inductive Fault where
  | missingAfter (word : Octets)
  | unexpected (word : Octets)
  | missingClose (after : Octets)
  | closeInstead (word : Octets)
  | unexpectedClose
  | notNumber
  | zeroDivisor
  | pattern (fault : Search.Fault)
  deriving DecidableEq

def Fault.text : Fault → Octets
  | .missingAfter word => "syntax error: missing argument after " ++ quotedWord word
  | .unexpected word => "syntax error: unexpected argument " ++ quotedWord word
  | .missingClose word => "syntax error: expecting ')' after " ++ quotedWord word
  | .closeInstead word => "syntax error: expecting ')' instead of " ++ quotedWord word
  | .unexpectedClose => "syntax error: unexpected ')'"
  | .notNumber => "non-integer argument"
  | .zeroDivisor => "division by zero"
  | .pattern fault => fault.text

/-- The arguments that are left, and the one before them. -/
structure Place where
  last : Octets
  rest : List Octets

abbrev Eval := StateT Place (Except Fault)

/-- Takes the next argument if it is one of some words. -/
def next? (words : List String) : Eval (Option String) := do
  let place ← get
  match place.rest with
  | word :: rest =>
    if words.contains (String.ofList word) then
      set (Place.mk word rest)
      return some (String.ofList word)
    else return none
  | [] => return none

def next : Eval Octets := do
  let place ← get
  match place.rest with
  | word :: rest =>
    set (Place.mk word rest)
    return word
  | [] => throw (.missingAfter place.last)

/-- The number that a whole text says: digits, after a dash perhaps. -/
def number? (text : Octets) : Option Int :=
  match text with
  | '-' :: digits => (Machine.number? digits).map fun n => -(n : Int)
  | digits => (Machine.number? digits).map fun n => (n : Int)

def number (text : Octets) : Eval Int :=
  match number? text with
  | some n => return n
  | none => throw .notNumber

/-- Whether a text counts as nothing: it is empty or a zero. -/
def isNothing (text : Octets) : Bool :=
  let digits := if text.head? = some '-' then text.drop 1 else text
  text.isEmpty || (!digits.isEmpty && digits.all (· = '0'))

def truth (value : Bool) : Octets := if value then ['1'] else ['0']

/-- What a pattern finds at the start of a text: what its group took, or the length. -/
def found (text pattern : Octets) : Eval Octets :=
  match Search.read false pattern with
  | .error fault => throw (.pattern fault)
  | .ok reading =>
    let e := reading.expression
    let hasGroup := Search.hasGroup e
    match e.longest? false (Search.Spot.start text) with
    | some last =>
      return if hasGroup then (last.groups.lookup 1).getD [] else decimal last.before.length
    | none => return if hasGroup then [] else ['0']

def arithmetic (operator : String) (left right : Octets) : Eval Octets := do
  let x ← number left
  let y ← number right
  match operator with
  | "+" => return signedDecimal (x + y)
  | "-" => return signedDecimal (x - y)
  | "*" => return signedDecimal (x * y)
  | _ =>
    if y = 0 then throw .zeroDivisor
    else return signedDecimal (if operator = "/" then Int.tdiv x y else Int.tmod x y)

/-- Compares two texts, as numbers if both are numbers. -/
def comparison (operator : String) (left right : Octets) : Octets :=
  let order : Ordering :=
    match number? left, number? right with
    | some x, some y => compare x y
    | _, _ => if left = right then .eq else if notAfter left right then .lt else .gt
  truth (match operator with
    | "<" => order = .lt
    | "<=" => order != .gt
    | "=" | "==" => order = .eq
    | "!=" => order != .eq
    | ">=" => order != .lt
    | _ => order = .gt)

/-- The part of a text from a place on. Places and lengths that are no numbers or less than one give
nothing. -/
def part (text place length : Octets) : Octets :=
  match number? place, number? length with
  | some place, some length =>
    if place < 1 || length < 1 then [] else (text.drop (place.toNat - 1)).take length.toNat
  | _, _ => []

def index (text bytes : Octets) : Nat :=
  let before := (text.takeWhile fun c => !bytes.contains c).length
  if before = text.length then 0 else before + 1

/-- The operators by how tightly they hold, the loosest first. -/
def operators : List (List String) :=
  [["|"], ["&"], ["<", "<=", "=", "==", "!=", ">=", ">"], ["+", "-"], ["*", "/", "%"], [":"]]

def apply (operator : String) (left right : Octets) : Eval Octets :=
  match operator with
  | "|" =>
    return if !isNothing left then left else if isNothing right then ['0'] else right
  | "&" => return if isNothing left || isNothing right then ['0'] else left
  | ":" => found left right
  | "+" | "-" | "*" | "/" | "%" => arithmetic operator left right
  | _ => return comparison operator left right

def isCounted (operator : String) (left : Octets) : Bool :=
  match operator with
  | "|" => isNothing left
  | "&" => !isNothing left
  | _ => true

mutual

/-- Computes an expression of operators that hold at least so tightly. -/
def level : (fuel : Nat) → List (List String) → (counts : Bool) → Eval Octets
  | 0, _, _ => return []
  | fuel + 1, [], counts => term fuel counts
  | fuel + 1, names :: tighter, counts => do
    let left ← level fuel tighter counts
    chain fuel names tighter counts left

/-- Goes on with the operators of one level. -/
def chain : (fuel : Nat) → List String → List (List String) → (counts : Bool) → Octets → Eval Octets
  | 0, _, _, _, left => return left
  | fuel + 1, names, tighter, counts, left => do
    match ← next? names with
    | none => return left
    | some operator =>
      let right ← level fuel tighter (counts && isCounted operator left)
      let value ← if counts then apply operator left right else pure left
      chain fuel names tighter counts value

def term : (fuel : Nat) → (counts : Bool) → Eval Octets
  | 0, _ => return []
  | fuel + 1, counts => do
    match ← next? ["+", "length", "match", "index", "substr", "(", ")"] with
    | some "+" => next
    | some "length" =>
      let text ← term fuel counts
      return decimal text.length
    | some "match" =>
      let text ← term fuel counts
      let pattern ← term fuel counts
      if counts then found text pattern else return []
    | some "index" =>
      let text ← term fuel counts
      let bytes ← term fuel counts
      return decimal (index text bytes)
    | some "substr" =>
      let text ← term fuel counts
      let place ← term fuel counts
      let length ← term fuel counts
      return part text place length
    | some "(" =>
      let value ← level fuel operators counts
      let place ← get
      match place.rest with
      | [] => throw (.missingClose place.last)
      | [')'] :: rest =>
        set (Place.mk [')'] rest)
        return value
      | word :: _ => throw (.closeInstead word)
    | some _ => throw .unexpectedClose
    | none => next

end

def whole (words : List Octets) : Eval Octets := do
  let value ← level (16 * (words.length + 1)) operators true
  match (← get).rest with
  | [] => return value
  | word :: _ => throw (.unexpected word)

end Computing

def expr (args : List Octets) : Act Nat := do
  let words := if args.head? = some ['-', '-'] then args.tail else args
  if words.isEmpty then misuse 2 "missing operand"
  else
    match (Computing.whole words).run ⟨[], words⟩ with
    | .ok (value, _) =>
      say (line value)
      return if Computing.isNothing value then 1 else 0
    | .error fault =>
      complain fault.text
      return 2

end LineShell.Machine.Tools
