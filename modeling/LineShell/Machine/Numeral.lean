import LineShell.Machine.Octets

/-!
# Numerals

Numbers as programs read them: blanks, a sign, and digits of a base that the first digits may tell.
Values stay within 64 bits.
-/

namespace LineShell.Machine

def leastInteger : Int := -9223372036854775808

def greatestInteger : Int := 9223372036854775807

/-- The greatest number of 64 bits without a sign. -/
def greatestNatural : Nat := 18446744073709551615

/-- A number brought into 64 bits with a sign. -/
def wrapped (n : Int) : Int :=
  let low := n % 18446744073709551616
  if low > greatestInteger then low - 18446744073709551616 else low

structure Numeral where
  negative : Bool
  magnitude : Nat
  rest : Octets
  found : Bool

namespace Numeral

/-- Reads digits after the sign. In base 0 the first digits tell the base. -/
def digits (base : Nat) (negative : Bool) (whole text : Octets) : Numeral :=
  let read (base : Nat) (text : Octets) : Numeral :=
    let digits := text.takeWhile (isDigitIn base)
    if digits.isEmpty then ⟨negative, 0, whole, false⟩
    else ⟨negative, numberIn base digits, text.drop digits.length, true⟩
  match text with
  | '0' :: x :: d :: rest =>
    if (x = 'x' || x = 'X') && (base = 0 || base = 16) && isDigitIn 16 d then read 16 (d :: rest)
    else read (if base = 0 then 8 else base) text
  | '0' :: _ => read (if base = 0 then 8 else base) text
  | _ => read (if base = 0 then 10 else base) text

def read (base : Nat) (text : Octets) : Numeral :=
  match text.dropWhile isWhiteByte with
  | '-' :: rest => digits base true text rest
  | '+' :: rest => digits base false text rest
  | rest => digits base false text rest

def value (n : Numeral) : Int := if n.negative then -(n.magnitude : Int) else n.magnitude

/-- Whether the value needs more than 64 bits with a sign. -/
def isOutOfRange (n : Numeral) : Bool := n.value < leastInteger || greatestInteger < n.value

/-- The value, cut to 64 bits with a sign. -/
def clamped (n : Numeral) : Int := max leastInteger (min greatestInteger n.value)

end Numeral

/-- The integer that a whole text says, blanks around it left out. In base 0 a text without digits
says 0. -/
def integer? (base : Nat) (text : Octets) : Option Int :=
  let n := Numeral.read base text
  if n.isOutOfRange || (base != 0 && !n.found) || !(n.rest.all isWhiteByte) then none
  else some n.value

end LineShell.Machine
