import LineShell.Machine.Numeral

/-!
# Arithmetic in scripts

Expressions over whole numbers of 64 bits, with the operators and precedences of C. A name stands
for the number in a variable; assignments are gathered and carried out by whoever evaluates.
-/

namespace LineShell.Machine.Arithmetic

inductive Token where
  | number (value : Int)
  | name (text : Octets)
  | sign (text : String)
  | bad
  | finish
  deriving DecidableEq, Repr

/-- The signs, longer ones before their beginnings. -/
def signs : List String := [
  "<<=", ">>=", "<=", ">=", "==", "!=", "&&", "||", "<<", ">>", "+=", "-=", "*=", "/=", "%=", "&=",
  "^=", "|=", "(", ")", "*", "/", "%", "+", "-", "~", "^", "?", ":", "=", "<", ">", "&", "|", "!"]

/-- The next part of an expression, and what follows it. -/
def nextToken (text : Octets) : Token × Octets :=
  match text.dropWhile isSpaceByte with
  | [] => (.finish, [])
  | c :: rest =>
    if c.isDigit then
      let n := Numeral.read 0 (c :: rest)
      (.number n.clamped, n.rest)
    else if isNameStart c then
      let name := (c :: rest).takeWhile isNameByte
      (.name name, (c :: rest).drop name.length)
    else
      match signs.find? fun (sign : String) => startsWith sign (c :: rest) with
      | some sign => (.sign sign, (c :: rest).drop sign.length)
      | none => (.bad, rest)

/-- What has been read of an expression: the next part, what follows it, and what was assigned, the
last first. -/
structure State where
  next : Token
  rest : Octets
  assigned : List (Octets × Int)

/-- The surroundings of an expression. -/
structure Context where
  text : Octets
  lookup : Octets → Option Octets

/-- A step of evaluation; it fails with a complaint. -/
abbrev Eval := ReaderT Context (StateT State (Except Octets))

def fault {α : Type} (text : Octets) : Eval α := do
  throw ("arithmetic expression: " ++ text ++ ": \"" ++ (← read).text ++ "\"")

def advance : Eval Unit :=
  modify fun s =>
    let (next, rest) := nextToken s.rest
    { s with next, rest }

def variable_ (name : Octets) : Eval Int := do
  match (← get).assigned.lookup name with
  | some value => return value
  | none =>
    let text := ((← read).lookup name).getD []
    match integer? 0 text with
    | some value => return value
    | none => throw ("Illegal number: " ++ text)

/-- The binding of an operator; the least binds most. -/
def precedence? (sign : String) : Option Nat :=
  [("*", 0), ("/", 0), ("%", 0), ("+", 1), ("-", 1), ("<<", 2), (">>", 2), ("<", 3), ("<=", 3),
    (">", 3), (">=", 3), ("==", 4), ("!=", 4), ("&", 5), ("^", 6), ("|", 7)].lookup sign

/-- The precedence of the next part, if it is an operator of two operands. -/
def nextPrecedence : Eval (Option (String × Nat)) := do
  match (← get).next with
  | .sign sign => return (precedence? sign).map fun p => (sign, p)
  | _ => return none

def truth (b : Bool) : Int := if b then 1 else 0

def bitsOf (n : Int) : Nat := (n % 18446744073709551616).toNat

def apply (sign : String) (a b : Int) : Eval Int := do
  match sign with
  | "*" => return wrapped (a * b)
  | "/" => if b = 0 then fault "division by zero" else return wrapped (a.tdiv b)
  | "%" => if b = 0 then fault "division by zero" else return a.tmod b
  | "+" => return wrapped (a + b)
  | "-" => return wrapped (a - b)
  | "<<" => return wrapped (a * (1 <<< (bitsOf b % 64) : Nat))
  | ">>" => return a >>> (bitsOf b % 64)
  | "<" => return truth (a < b)
  | "<=" => return truth (a ≤ b)
  | ">" => return truth (b < a)
  | ">=" => return truth (b ≤ a)
  | "==" => return truth (a = b)
  | "!=" => return truth (a ≠ b)
  | "&" => return wrapped (bitsOf a &&& bitsOf b : Nat)
  | "^" => return wrapped (bitsOf a ^^^ bitsOf b : Nat)
  | "|" => return wrapped (bitsOf a ||| bitsOf b : Nat)
  | _ => fault "expecting primary"

/-- The operators that assign, with the operator that they apply first. -/
def assigning? (sign : String) : Option String :=
  [("=", "="), ("+=", "+"), ("-=", "-"), ("*=", "*"), ("/=", "/"), ("%=", "%"), ("<<=", "<<"),
    (">>=", ">>"), ("&=", "&"), ("^=", "^"), ("|=", "|")].lookup sign

mutual

/-- Evaluates an assignment or what binds more. Nothing is looked up or assigned while `skips`. -/
def assignment : (fuel : Nat) → (skips : Bool) → Eval Int
  | 0, _ => fault "expecting primary"
  | fuel + 1, skips => do
    let s ← get
    match s.next with
    | .name name =>
      match nextToken s.rest with
      | (.sign sign, rest) =>
        match assigning? sign with
        | some operator =>
          set { s with rest }
          advance
          let value ← assignment fuel skips
          if skips then return value
          else
            let value ← if operator = "=" then pure value
              else apply operator (← variable_ name) value
            modify fun s => { s with assigned := (name, value) :: s.assigned }
            return value
        | none => conditional fuel skips
      | _ => conditional fuel skips
    | _ => conditional fuel skips

def conditional : (fuel : Nat) → (skips : Bool) → Eval Int
  | 0, _ => fault "expecting primary"
  | fuel + 1, skips => do
    let test ← disjunction fuel skips
    if (← get).next = .sign "?" then
      advance
      let first ← assignment fuel (skips || test = 0)
      if (← get).next = .sign ":" then
        advance
        let second ← conditional fuel (skips || test ≠ 0)
        return if test ≠ 0 then first else second
      else fault "expecting ':'"
    else return test

def disjunction : (fuel : Nat) → (skips : Bool) → Eval Int
  | 0, _ => fault "expecting primary"
  | fuel + 1, skips => do
    let first ← conjunction fuel skips
    if (← get).next = .sign "||" then
      advance
      let second ← disjunction fuel (skips || first ≠ 0)
      return truth (first ≠ 0 || second ≠ 0)
    else return first

def conjunction : (fuel : Nat) → (skips : Bool) → Eval Int
  | 0, _ => fault "expecting primary"
  | fuel + 1, skips => do
    let first ← operand fuel skips
    let first ← operators fuel skips 8 first
    if (← get).next = .sign "&&" then
      advance
      let second ← conjunction fuel (skips || first = 0)
      return truth (first ≠ 0 && second ≠ 0)
    else return first

/-- Applies the operators after an operand that bind more than a bound. -/
def operators : (fuel : Nat) → (skips : Bool) → (bound : Nat) → (first : Int) → Eval Int
  | 0, _, _, _ => fault "expecting primary"
  | fuel + 1, skips, bound, first => do
    match ← nextPrecedence with
    | some (sign, precedence) =>
      if precedence < bound then
        advance
        let second ← operand fuel skips
        let second ← operators fuel skips precedence second
        let value ← if skips then pure second else apply sign first second
        operators fuel skips bound value
      else return first
    | none => return first

def operand : (fuel : Nat) → (skips : Bool) → Eval Int
  | 0, _ => fault "expecting primary"
  | fuel + 1, skips => do
    match (← get).next with
    | .number value =>
      advance
      return value
    | .name name =>
      advance
      if skips then return 0 else variable_ name
    | .sign "(" =>
      advance
      let value ← assignment fuel skips
      if (← get).next = .sign ")" then
        advance
        return value
      else fault "expecting ')'"
    | .sign "+" =>
      advance
      operand fuel skips
    | .sign "-" =>
      advance
      return wrapped (-(← operand fuel skips))
    | .sign "!" =>
      advance
      return truth ((← operand fuel skips) = 0)
    | .sign "~" =>
      advance
      return -1 - (← operand fuel skips)
    | _ => fault "expecting primary"

end

/-- Evaluates an expression. Gives its value and the assignments, in order. -/
def evaluate (lookup : Octets → Option Octets) (text : Octets) :
    Except Octets (Int × List (Octets × Int)) :=
  let (next, rest) := nextToken text
  let whole : Eval Int := do
    let value ← assignment (8 * (text.length + 2)) false
    if (← get).next = .finish then return value else fault "expecting EOF"
  match (whole.run ⟨text, lookup⟩).run ⟨next, rest, []⟩ with
  | .ok (value, s) => .ok (value, s.assigned.reverse)
  | .error text => .error text

end LineShell.Machine.Arithmetic
