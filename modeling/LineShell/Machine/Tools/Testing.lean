import LineShell.Machine.Numeral
import LineShell.Machine.Tools.Basic

/-!
# Tests

A program that tests files, texts and numbers. The number of its arguments decides how those are
read where that is few; longer tests are conjunctions and disjunctions.
-/

namespace LineShell.Machine.Tools.Testing

/-- A step of a test: the job, the last argument, the arguments that are left, and a complaint if the
test is no test. -/
abbrev Eval := ReaderT (Job × Octets) (StateT (List Octets) (Except Octets))

/-- Complains that there should be more arguments. -/
def missing {α : Type} : Eval α := do
  throw ("missing argument after " ++ quotedWord (← read).2)

def next : Eval Octets := do
  match ← get with
  | word :: rest =>
    set rest
    return word
  | [] => missing

/-- Takes an argument after which there has to be another. -/
def pass : Eval Octets := do
  let word ← next
  if (← get).isEmpty then missing else return word

def binaryOperators : List String :=
  ["=", "==", "!=", "<", ">", "-eq", "-ne", "-lt", "-le", "-gt", "-ge", "-nt", "-ot", "-ef"]

def isBinary (word : Octets) : Bool := binaryOperators.contains (String.ofList word)

/-- Whether a word is a dash and a letter. -/
def isFlag : Octets → Bool
  | ['-', _] => true
  | _ => false

/-- The number that a word says. There is no limit to it. -/
def number (word : Octets) : Eval Int := do
  let n := Numeral.read 10 word
  if n.found && n.rest.all isWhiteByte then return n.value
  else throw ("invalid integer " ++ quotedWord word)

def single : Eval Bool := return !(← next).isEmpty

def unary : Eval Bool := do
  let operator := (← get).headD []
  let letter := (operator[1]?).getD ' '
  if !("nzt".toList ++ fileTestLetters).contains letter then
    throw (quotedWord operator ++ ": unary operator expected")
  else
    let _ ← pass
    let operand ← next
    match letter with
    | 'n' => return !operand.isEmpty
    | 'z' => return operand.isEmpty
    | 't' =>
      let _ ← number operand
      return false
    | _ => return (← read).1.satisfies letter operand

def binary : Eval Bool := do
  let left ← next
  let operator ← next
  let right ← next
  match String.ofList operator with
  | "=" | "==" => return left = right
  | "!=" => return left ≠ right
  | "<" => return !notAfter right left
  | ">" => return !notAfter left right
  | "-eq" => return (← number left) = (← number right)
  | "-ne" => return (← number left) ≠ (← number right)
  | "-lt" => return (← number left) < (← number right)
  | "-le" => return (← number left) ≤ (← number right)
  | "-gt" => return (← number left) > (← number right)
  | "-ge" => return (← number left) ≥ (← number right)
  | "-ef" => return (← read).1.areSame left right
  | _ => return false

def two : Eval Bool := do
  match ← get with
  | ['!'] :: _ =>
    let _ ← next
    return !(← single)
  | word :: _ => if isFlag word then unary else missing
  | [] => missing

mutual

def counted : (fuel : Nat) → (count : Nat) → Eval Bool
  | 0, _ => missing
  | fuel + 1, count => do
    match count, ← get with
    | 1, _ => single
    | 2, _ => two
    | 3, _ => three fuel
    | 4, ['!'] :: _ =>
      let _ ← pass
      return !(← three fuel)
    | 4, ['('] :: _ :: _ :: [')'] :: _ =>
      let _ ← next
      let value ← two
      let _ ← next
      return value
    | _, _ => anyOf fuel

def three : (fuel : Nat) → Eval Bool
  | 0 => missing
  | fuel + 1 => do
    match ← get with
    | first :: operator :: rest =>
      if isBinary operator then binary
      else if first = ['!'] then
        let _ ← pass
        return !(← two)
      else if first = ['('] && rest.head? = some [')'] then
        let _ ← next
        let value ← single
        let _ ← next
        return value
      else if operator = ['-', 'a'] || operator = ['-', 'o'] then anyOf fuel
      else throw (quotedWord operator ++ ": binary operator expected")
    | _ => missing

/-- Tests whether one of several conditions holds. -/
def anyOf : (fuel : Nat) → Eval Bool
  | 0 => missing
  | fuel + 1 => do
    let value ← allOf fuel
    if (← get).head? = some ['-', 'o'] then
      let _ ← next
      let others ← anyOf fuel
      return value || others
    else return value

/-- Tests whether all of several conditions hold. -/
def allOf : (fuel : Nat) → Eval Bool
  | 0 => missing
  | fuel + 1 => do
    let value ← condition fuel
    if (← get).head? = some ['-', 'a'] then
      let _ ← next
      let others ← allOf fuel
      return value && others
    else return value

def condition : (fuel : Nat) → Eval Bool
  | 0 => missing
  | fuel + 1 => do
    match ← get with
    | [] => missing
    | ['!'] :: _ =>
      let _ ← pass
      return !(← condition fuel)
    | ['('] :: _ =>
      let _ ← pass
      let inside ← get
      let length := (inside.takeWhile (· != [')'])).length
      let value ← counted fuel (if 4 < length then inside.length else max 1 length)
      match ← get with
      | [] => throw (quotedWord [')'] ++ " expected")
      | [')'] :: rest =>
        set rest
        return value
      | other :: _ => throw (quotedWord [')'] ++ " expected, found " ++ quotedWord other)
    | word :: rest =>
      match rest with
      | operator :: _ :: _ =>
        if isBinary operator then binary else if isFlag word then unary else single
      | _ => if isFlag word then unary else single

end

def whole (words : List Octets) : Eval Bool := do
  set words
  let value ← counted (8 * (words.length + 2)) words.length
  match ← get with
  | [] => return value
  | extra :: _ => throw ("extra argument " ++ quotedWord extra)

def run (words : List Octets) : Act Nat := do
  if words.isEmpty then return 1
  else
    match ((whole words).run (← get, words.getLast?.getD [])).run [] with
    | .ok (value, _) => return if value then 0 else 1
    | .error text =>
      complain text
      return 2

end Testing

def test (args : List Octets) : Act Nat := Testing.run args

/-- Tests its arguments but the last, which has to be a bracket. -/
def bracket (args : List Octets) : Act Nat := do
  if args.getLast? = some [']'] then Testing.run args.dropLast
  else
    complain ("missing " ++ quotedWord [']'])
    return 2

end LineShell.Machine.Tools
