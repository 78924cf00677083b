import LineShell.Machine.Numeral

/-!
# Formatted output

A conversion says how a value is written: with a sign, in a base, in a field of some width, with a
number of digits. Fractions are held exactly and rounded once, a half to the even neighbour.
-/

namespace LineShell.Machine

structure Conversion where
  atStart : Bool := false
  plus : Bool := false
  blank : Bool := false
  alternate : Bool := false
  zeros : Bool := false
  width : Nat := 0
  precision : Option Nat := none
  letter : Char := 's'
  deriving DecidableEq, Repr

namespace Conversion

def withFlag (c : Conversion) (flag : Char) : Conversion :=
  match flag with
  | '-' => { c with atStart := true }
  | '+' => { c with plus := true }
  | ' ' => { c with blank := true }
  | '#' => { c with alternate := true }
  | '0' => { c with zeros := true }
  | _ => c

/-- The conversion with a width; a negative one puts the value at the start of the field. -/
def withWidth (c : Conversion) (width : Int) : Conversion :=
  if width < 0 then { c with atStart := true, width := width.natAbs } else { c with width := width.natAbs }

def field (c : Conversion) (text : Octets) : Octets := padded c.width (!c.atStart) ' ' text

/-- Writes a text, of which the precision may keep only the start. -/
def text (c : Conversion) (text : Octets) : Octets :=
  c.field (match c.precision with
    | some most => text.take most
    | none => text)

/-- Puts a sign and digits into the field; zeros go between them. -/
def signed (c : Conversion) (sign digits : Octets) (fillsWithZeros : Bool) : Octets :=
  if c.zeros && !c.atStart && fillsWithZeros then
    sign ++ padded (c.width - sign.length) true '0' digits
  else c.field (sign ++ digits)

def signOf (c : Conversion) (negative : Bool) : Octets :=
  if negative then ['-'] else if c.plus then ['+'] else if c.blank then [' '] else []

/-- The digits of a number, as many as the precision asks for. A zero of no digits is empty. -/
def wholeDigits (c : Conversion) (base n : Nat) : Octets :=
  if n = 0 && c.precision = some 0 then [] else digitsIn base (c.precision.getD 1) n

def integer (c : Conversion) (value : Int) : Octets :=
  c.signed (c.signOf (value < 0)) (c.wholeDigits 10 value.natAbs) c.precision.isNone

def natural (c : Conversion) (n : Nat) : Octets :=
  match c.letter with
  | 'o' =>
    let digits := c.wholeDigits 8 n
    c.signed [] (if c.alternate && digits.head? != some '0' then '0' :: digits else digits)
      c.precision.isNone
  | 'x' =>
    c.signed (if c.alternate && n ≠ 0 then "0x" else []) (c.wholeDigits 16 n) c.precision.isNone
  | 'X' =>
    c.signed (if c.alternate && n ≠ 0 then "0X" else [])
      ((c.wholeDigits 16 n).map Char.toUpper) c.precision.isNone
  | _ => c.signed [] (c.wholeDigits 10 n) c.precision.isNone

end Conversion

/-- A quotient of naturals, rounded to the nearest; a half goes to the even neighbour. -/
def roundedQuotient (n d : Nat) : Nat :=
  let q := n / d
  let twice := 2 * (n % d)
  if twice < d then q else if d < twice then q + 1 else if q % 2 = 0 then q else q + 1

/-- An exact fraction with a sign, or what is none. -/
inductive Fraction where
  | fraction (negative : Bool) (numerator denominator : Nat)
  | infinite (negative : Bool)
  | undefined (negative : Bool)
  deriving DecidableEq, Repr

namespace Fraction

/-- The fraction nearest to another that a number of significant bits can hold. -/
def inBits (bits : Nat) : Fraction → Fraction
  | .fraction negative n d =>
    if n = 0 || d = 0 then .fraction negative 0 1
    else
      -- The quotient has between `bits` and `bits + 1` bits once it is scaled.
      let up := bits + d.log2 - n.log2
      let down := n.log2 - d.log2 - bits
      let scaledN := n <<< up
      let scaledD := d <<< down
      let extra := if (scaledN / scaledD).log2 < bits then 0 else 1
      let m := roundedQuotient scaledN (scaledD <<< extra)
      .fraction negative (m <<< (down + extra)) (1 <<< up)
  | other => other

/-- The digits of a fraction with so many after the point. -/
def fixedDigits (n d places : Nat) (keepsPoint : Bool) : Octets :=
  let scaled := roundedQuotient (n * Nat.pow 10 places) d
  let digits := digitsIn 10 (places + 1) scaled
  let whole := digits.take (digits.length - places)
  if places = 0 then (if keepsPoint then whole ++ ['.'] else whole)
  else whole ++ '.' :: digits.drop (digits.length - places)

/-- The power of ten of the first digit, found from a guess. -/
def exponentFrom (n d : Nat) : (fuel : Nat) → Int → Int
  | 0, guess => guess
  | fuel + 1, guess =>
    let below : Bool :=
      if 0 ≤ guess then n < d * Nat.pow 10 guess.natAbs else n * Nat.pow 10 guess.natAbs < d
    let above : Bool :=
      if 0 ≤ guess + 1 then d * Nat.pow 10 (guess + 1).natAbs ≤ n
      else d ≤ n * Nat.pow 10 (guess + 1).natAbs
    if below then exponentFrom n d fuel (guess - 1)
    else if above then exponentFrom n d fuel (guess + 1)
    else guess

/-- The digits of a fraction with one before the point, and the power of ten. -/
def scientific (n d places : Nat) : Nat × Int :=
  if n = 0 then (0, 0)
  else
    let guess : Int := ((n.log2 : Int) - d.log2) * 30103 / 100000
    let e := exponentFrom n d 400 guess
    let shift := (places : Int) - e
    let m := if 0 ≤ shift then roundedQuotient (n * Nat.pow 10 shift.natAbs) d
      else roundedQuotient n (d * Nat.pow 10 shift.natAbs)
    if Nat.pow 10 (places + 1) ≤ m then (m / 10, e + 1) else (m, e)

/-- An exponent with a sign and at least two digits. -/
def exponentText (letter : Char) (e : Int) : Octets :=
  letter :: (if e < 0 then '-' else '+') :: digitsIn 10 2 e.natAbs

def scientificDigits (letter : Char) (n d places : Nat) (keepsPoint : Bool) : Octets :=
  let (m, e) := scientific n d places
  let digits := digitsIn 10 (places + 1) m
  let point : Octets := if places = 0 then (if keepsPoint then ['.'] else []) else '.' :: digits.drop 1
  digits.take 1 ++ point ++ exponentText letter e

/-- A number without the zeros at the end of its fraction. -/
def withoutZeros (text : Octets) : Octets :=
  if text.contains '.' then dropEndWhile (· = '.') (dropEndWhile (· = '0') text) else text

/-- The digits of a fraction in whichever form is the shorter. -/
def generalDigits (letter : Char) (n d precision : Nat) (alternate : Bool) : Octets :=
  let significant := if precision = 0 then 1 else precision
  let (_, e) := scientific n d (significant - 1)
  if e < -4 || (significant : Int) ≤ e then
    let text := scientificDigits letter n d (significant - 1) alternate
    if alternate then text
    else
      let mantissa := text.takeWhile (· != letter)
      withoutZeros mantissa ++ text.drop mantissa.length
  else
    let text := fixedDigits n d ((significant : Int) - 1 - e).toNat alternate
    if alternate then text else withoutZeros text

def write (c : Conversion) (value : Fraction) : Octets :=
  let upper := c.letter.isUpper
  match value with
  | .infinite negative => c.field (c.signOf negative ++ (if upper then "INF" else "inf"))
  | .undefined negative => c.field (c.signOf negative ++ (if upper then "NAN" else "nan"))
  | .fraction negative n d =>
    let precision := c.precision.getD 6
    let digits :=
      match c.letter.toLower with
      | 'e' => scientificDigits (if upper then 'E' else 'e') n d precision c.alternate
      | 'g' => generalDigits (if upper then 'E' else 'e') n d precision c.alternate
      | _ => fixedDigits n d precision c.alternate
    c.signed (c.signOf negative) digits true

/-- What was read of a fraction, and what follows it; `none` if there are no digits. -/
def read? (text : Octets) : Option (Fraction × Octets) :=
  let (negative, text) :=
    match text.dropWhile isWhiteByte with
    | '-' :: rest => (true, rest)
    | '+' :: rest => (false, rest)
    | rest => (false, rest)
  let lower := text.map Char.toLower
  if startsWith "infinity" lower then some (.infinite negative, text.drop 8)
  else if startsWith "inf" lower then some (.infinite negative, text.drop 3)
  else if startsWith "nan" lower then some (.undefined negative, text.drop 3)
  else
    let (base, mark, text) : Nat × Char × Octets :=
      match text with
      | '0' :: x :: d :: rest =>
        if (x = 'x' || x = 'X') && (isDigitIn 16 d || d = '.') then (16, 'p', d :: rest)
        else (10, 'e', text)
      | _ => (10, 'e', text)
    let whole := text.takeWhile (isDigitIn base)
    let rest := text.drop whole.length
    let fractional : Octets :=
      match rest with
      | '.' :: rest => rest.takeWhile (isDigitIn base)
      | _ => []
    if whole.isEmpty && fractional.isEmpty then none
    else
      let rest := if rest.head? = some '.' then rest.drop (fractional.length + 1) else rest
      let n := numberIn base (whole ++ fractional)
      let d := Nat.pow base fractional.length
      let (exponent, rest) : Int × Octets :=
        match rest with
        | c :: after =>
          if c.toLower = mark then
            let e := Numeral.read 10 after
            let signless := (after.dropWhile fun c => c = '+' || c = '-')
            if e.found && (signless.head?.map Char.isDigit) = some true &&
                after.length ≤ signless.length + 1 then (e.value, e.rest)
            else (0, rest)
          else (0, rest)
        | [] => (0, rest)
      let scale := Nat.pow (if base = 16 then 2 else 10) (min exponent.natAbs 5000)
      if 0 ≤ exponent then some (.fraction negative (n * scale) d, rest)
      else some (.fraction negative n (d * scale), rest)

end Fraction

end LineShell.Machine
