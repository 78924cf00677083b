/-!
# Limits written as decimal numbers

A limit is a decimal number of 64 bits, with an optional plus sign, and at least 2. A text that is
no such number has one fault: the first that is met from left to right.
-/

namespace LineShell

def Limit.greatest : Nat := UInt64.size - 1

/-- What keeps a text from being a limit. -/
inductive LimitFault where
  | empty
  | invalidDigit
  | tooLarge
  | tooSmall
  deriving DecidableEq, Repr

namespace LimitFault

/-- The reason that the operator reads. -/
def message : LimitFault → String
  | .empty => "cannot parse integer from empty string"
  | .invalidDigit => "invalid digit found in string"
  | .tooLarge => "number too large to fit in target type"
  | .tooSmall => "must be at least 2"

end LimitFault

namespace Limit

def digit? (c : Char) : Option Nat := if c.isDigit then some (c.toNat - '0'.toNat) else none

/-- The number that digits add to the one read so far. -/
def readDigits (sofar : Nat) : List Char → Except LimitFault Nat
  | [] => .ok sofar
  | c :: rest =>
    match digit? c with
    | none => .error .invalidDigit
    | some d =>
      if greatest < sofar * 10 + d then .error .tooLarge else readDigits (sofar * 10 + d) rest

def readNumber : List Char → Except LimitFault Nat
  | [] => .error .empty
  | ['+'] => .error .invalidDigit
  | '+' :: digits => readDigits 0 digits
  | digits => readDigits 0 digits

def parse (text : String) : Except LimitFault Nat :=
  match readNumber text.toList with
  | .error fault => .error fault
  | .ok n => if n < 2 then .error .tooSmall else .ok n

end Limit

end LineShell
