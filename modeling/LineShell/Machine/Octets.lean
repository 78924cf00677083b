import LineShell.Text.Utf8

/-!
# Octet texts

Names, file contents and scripts are handled byte by byte. A byte is held as the character of its
number, so that the texts of a machine read like any others.
-/

namespace LineShell.Machine

/-- A text in which each character stands for one byte. -/
abbrev Octets := List Char

def bytesOf (text : String) : List UInt8 := Text.Utf8.encode text.toList

namespace Octets

def ofBytes (bytes : List UInt8) : Octets := bytes.map fun b => Char.ofNat b.toNat

def toBytes (text : Octets) : List UInt8 := text.map fun c => UInt8.ofNat c.toNat

def ofString (text : String) : Octets := ofBytes (bytesOf text)

end Octets

scoped instance : Coe String Octets := ⟨Octets.ofString⟩

def decimal (n : Nat) : Octets := Nat.toDigits 10 n

def signedDecimal (n : Int) : Octets :=
  if n < 0 then '-' :: decimal n.natAbs else decimal n.natAbs

def digitsIn (base width n : Nat) : Octets :=
  let digits := Nat.toDigits base n
  List.replicate (width - digits.length) '0' ++ digits

/-- The value of a digit in bases up to 36; `none` for any other byte. -/
def digitValue? (c : Char) : Option Nat :=
  if c.isDigit then some (c.toNat - '0'.toNat)
  else if 'a' ≤ c && c ≤ 'z' then some (c.toNat - 'a'.toNat + 10)
  else if 'A' ≤ c && c ≤ 'Z' then some (c.toNat - 'A'.toNat + 10)
  else none

def isDigitIn (base : Nat) (c : Char) : Bool :=
  match digitValue? c with
  | some value => value < base
  | none => false

def numberIn (base : Nat) (digits : Octets) : Nat :=
  digits.foldl (fun n c => n * base + (digitValue? c).getD 0) 0

/-- Whether a text consists of decimal digits. -/
def isNumber (text : Octets) : Bool := !text.isEmpty && text.all Char.isDigit

/-- The number that a text of decimal digits says. -/
def number? (text : Octets) : Option Nat :=
  if isNumber text then some (numberIn 10 text) else none

/-- The bytes that separate words by default. -/
def isSpaceByte (c : Char) : Bool := c = ' ' || c = '\t' || c = '\n'

/-- The bytes that count as white space in numbers. -/
def isWhiteByte (c : Char) : Bool := c = ' ' || ('\t' ≤ c && c ≤ '\r')

def isNameStart (c : Char) : Bool := c.isAlpha || c = '_'

def isNameByte (c : Char) : Bool := c.isAlphanum || c = '_'

def isName : Octets → Bool
  | [] => false
  | c :: rest => isNameStart c && rest.all isNameByte

def isPrinted (c : Char) : Bool := ' ' ≤ c && c ≤ '~'

def joined (between : Octets) : List Octets → Octets
  | [] => []
  | [text] => text
  | text :: rest => text ++ between ++ joined between rest

def spaced (texts : List Octets) : Octets := joined [' '] texts

def line (text : Octets) : Octets := text ++ ['\n']

/-- The pieces of a text that end with a mark, the last one maybe without it, after some bytes of
the first one in reverse order. -/
def endedFrom (mark : Char) (current : Octets) : Octets → List Octets
  | [] => if current.isEmpty then [] else [current.reverse]
  | c :: rest =>
    if c = mark then (c :: current).reverse :: endedFrom mark [] rest
    else endedFrom mark (c :: current) rest

/-- The pieces of a text, each with the mark that ends it if it has one. -/
def endedBy (mark : Char) (text : Octets) : List Octets := endedFrom mark [] text

/-- The lines of a text, each with its newline if it has one. -/
def linesOf (text : Octets) : List Octets := endedBy '\n' text

/-- A piece of a text without the mark that ends it. -/
def withoutEnd (mark : Char) (text : Octets) : Octets :=
  if text.getLast? = some mark then text.dropLast else text

def bareLine (text : Octets) : Octets := withoutEnd '\n' text

def dropEndWhile (test : Char → Bool) (text : Octets) : Octets :=
  (text.reverse.dropWhile test).reverse

def notAfter : Octets → Octets → Bool
  | [], _ => true
  | _ :: _, [] => false
  | x :: xs, y :: ys => x < y || (x == y && notAfter xs ys)

def sortedOctets (texts : List Octets) : List Octets := texts.mergeSort notAfter

def startsWith (beginning text : Octets) : Bool := beginning.isPrefixOf text

def padded (width : Nat) (atStart : Bool) (filler : Char) (text : Octets) : Octets :=
  let filling := List.replicate (width - text.length) filler
  if atStart then filling ++ text else text ++ filling

def nameEscape (c : Char) : Octets :=
  let letter :=
    match c with
    | '\x07' => some 'a'
    | '\x08' => some 'b'
    | '\t' => some 't'
    | '\n' => some 'n'
    | '\x0b' => some 'v'
    | '\x0c' => some 'f'
    | '\r' => some 'r'
    | _ => none
  match letter with
  | some letter => ['\\', letter]
  | none => '\\' :: digitsIn 8 3 c.toNat

/-- Whether a command line could not hold a byte bare. -/
def isSpecialByte (c : Char) : Bool := " !\"$&()*;<=>[^\x60|\\'?".toList.contains c

/-- A name between single quotes; unprinted bytes stand as escapes outside of them. -/
def quotedName (name : Octets) : Octets :=
  let step (state : Octets × Bool) (c : Char) : Octets × Bool :=
    let (text, escaping) := state
    if isPrinted c then
      (text ++ (if escaping then ['\'', '\''] else []) ++
        (if c = '\'' then ['\'', '\\', '\'', '\''] else [c]), false)
    else
      (text ++ (if escaping then [] else ['\'', '$', '\'']) ++ nameEscape c, true)
  if name.contains '\'' &&
      name.all fun c => isPrinted c && (c = '\'' || c = ' ' || !isSpecialByte c) then
    '"' :: name ++ ['"']
  else (name.foldl step (['\''], false)).1 ++ ['\'']

/-- A name as it stands in a complaint: bare if a command line could hold it so. -/
def shownName (name : Octets) : Octets :=
  if name.all fun c => isPrinted c && !isSpecialByte c then
    if name.isEmpty || name.head? = some '#' || name.head? = some '~' then quotedName name else name
  else quotedName name

def betweenQuotes (text : Octets) : Octets := '\'' :: text ++ ['\'']

/-- A word between single quotes. A quote or a backslash in it has a backslash before it, and unprinted
bytes stand as escapes. -/
def quotedWord (text : Octets) : Octets :=
  betweenQuotes (text.flatMap fun c =>
    if c = '\'' || c = '\\' then ['\\', c] else if isPrinted c then [c] else nameEscape c)

end LineShell.Machine
