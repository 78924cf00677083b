import LineShell.Machine.FileTest
import LineShell.Machine.Interpreter.State

/-!
# Conditions

The words of a test make up an expression: operands, operators on one or two of them, negations,
conjunctions and disjunctions. A word counts as an operator only where it can be one.
-/

namespace LineShell.Machine.Interpreter.Condition

/-- What a word can do in a test. -/
inductive Role where
  | unary
  | binary
  | negation
  | conjunction
  | disjunction
  | open_
  | close
  deriving DecidableEq, Repr

def binaryOperators : List String :=
  ["=", "!=", "<", ">", "-eq", "-ne", "-gt", "-ge", "-lt", "-le", "-nt", "-ot", "-ef"]

def unaryLetters : List Char := "rwxefdcbpugkstznhLOGS".toList

def role? (word : Octets) : Option Role :=
  match word with
  | ['!'] => some .negation
  | ['('] => some .open_
  | [')'] => some .close
  | ['-', 'a'] => some .conjunction
  | ['-', 'o'] => some .disjunction
  | ['-', letter] => if unaryLetters.contains letter then some .unary else none
  | _ => if binaryOperators.contains (String.ofList word) then some .binary else none

inductive Lexeme where
  | finish
  | operand
  | operator (role : Role)
  deriving DecidableEq, Repr

/-- Whether a word that could be a unary operator is an operand, by what follows it. -/
def standsAlone : List Octets → Bool
  | [] => true
  | [_] => false
  | second :: _ => role? second = some .binary

def lexeme : List Octets → Lexeme
  | [] => .finish
  | word :: rest =>
    match role? word with
    | none => .operand
    | some .unary => if standsAlone rest then .operand else .operator .unary
    | some .open_ => if rest.isEmpty then .operand else .operator .open_
    | some role => .operator role

/-- A step of evaluation: the words that are left, and a complaint if it fails. -/
abbrev Eval := ReaderT Job (StateT (List Octets) (Except Octets))

def refuse {α : Type} (text : Octets) : Eval α := throw text

def number (word : Octets) : Eval Int := do
  match integer? 10 word with
  | some n => return n
  | none => refuse ("Illegal number: " ++ word)

def unary (letter : Char) (operand : Octets) : Eval Bool := do
  match letter with
  | 'z' => return operand.isEmpty
  | 'n' => return !operand.isEmpty
  | 't' =>
    let _ ← number operand
    return false
  | _ => return (← read).satisfies letter operand

def binary (operator : String) (left right : Octets) : Eval Bool := do
  match operator with
  | "=" => return left = right
  | "!=" => return left ≠ right
  | "<" => return !notAfter right left
  | ">" => return !notAfter left right
  | "-eq" => return (← number left) = (← number right)
  | "-ne" => return (← number left) ≠ (← number right)
  | "-gt" => return (← number left) > (← number right)
  | "-ge" => return (← number left) ≥ (← number right)
  | "-lt" => return (← number left) < (← number right)
  | "-le" => return (← number left) ≤ (← number right)
  | "-ef" => return (← read).areSame left right
  | _ => return false

def following : Eval (List Octets) := return (← get).tail

mutual

/-- Evaluates a disjunction that begins with a word of some kind. -/
def disjunction : (fuel : Nat) → Lexeme → Eval Bool
  | 0, _ => refuse "argument expected"
  | fuel + 1, first => do
    let left ← conjunction fuel first
    if lexeme (← following) = .operator .disjunction then
      modify (·.drop 2)
      let right ← disjunction fuel (lexeme (← get))
      return left || right
    else return left

/-- Evaluates a conjunction that begins with a word of some kind. -/
def conjunction : (fuel : Nat) → Lexeme → Eval Bool
  | 0, _ => refuse "argument expected"
  | fuel + 1, first => do
    let left ← negation fuel first
    if lexeme (← following) = .operator .conjunction then
      modify (·.drop 2)
      let right ← conjunction fuel (lexeme (← get))
      return left && right
    else return left

def negation : (fuel : Nat) → Lexeme → Eval Bool
  | 0, _ => refuse "argument expected"
  | fuel + 1, first => do
    if first = .operator .negation then
      let next := lexeme (← following)
      if next != .finish then modify List.tail
      return !(← negation fuel next)
    else primary fuel first

/-- Evaluates operands with their operator, or an expression in parentheses. -/
def primary : (fuel : Nat) → Lexeme → Eval Bool
  | 0, _ => refuse "argument expected"
  | fuel + 1, first => do
    match first, ← get with
    | .finish, _ => return false
    | .operator .open_, _ =>
      modify List.tail
      let inside := lexeme (← get)
      if inside = .operator .close then return false
      else
        let value ← disjunction fuel inside
        modify List.tail
        if lexeme (← get) = .operator .close then return value
        else refuse "closing paren expected"
    | .operator .unary, operator :: rest =>
      set rest
      match rest with
      | [] => refuse (operator ++ ": argument expected")
      | operand :: _ => unary ((operator[1]?).getD ' ') operand
    | _, left :: operator :: rest =>
      if role? operator = some .binary then
        set rest
        match rest with
        | [] => refuse (operator ++ ": argument expected")
        | right :: _ => binary (String.ofList operator) left right
      else return !left.isEmpty
    | _, words => return !(words.headD []).isEmpty

end

def whole (words : List Octets) : Eval Bool := do
  let free (first : Lexeme) : Eval Bool := do
    let value ← disjunction (8 * (words.length + 2)) first
    match ← get with
    | word :: _ :: _ => refuse (word ++ ": unexpected operator")
    | _ => return value
  set words
  free (match words with
    | [_, operator, _] =>
      if role? operator = some .binary then .operand else lexeme words
    | _ => lexeme words)

/-- Evaluates the words of a test, of which few have a meaning of their own: an operator between two
operands, a negation and parentheses around the others. -/
def evaluateFrom : (fuel : Nat) → List Octets → Eval Bool
  | 0, words => whole words
  | _, [] => return false
  | fuel + 1, words => do
    let inner := (words.drop 1).dropLast
    let isEnclosed : Bool := words.head? = some ['('] && words.getLast? = some [')']
    let isComparison : Bool :=
      match words with
      | [_, operator, _] => role? operator = some .binary
      | _ => false
    if !isComparison && (words.length = 3 || words.length = 4) then
      if isEnclosed then whole inner
      else if words.head? = some ['!'] then return !(← evaluateFrom fuel words.tail)
      else whole words
    else whole words

def evaluate (job : Job) (words : List Octets) : Except Octets Bool :=
  match ((evaluateFrom words.length words).run job).run [] with
  | .ok (value, _) => .ok value
  | .error text => .error text

end LineShell.Machine.Interpreter.Condition
