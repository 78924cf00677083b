import LineShell.Machine.Octets

/-!
# Escapes

A backslash and what follows it may stand for another byte, or end all output. The programs differ
in which escapes they know.
-/

namespace LineShell.Machine.Escape

inductive Dialect where
  /-- The program for templates, which knows hexadecimal and Unicode escapes. -/
  | program
  /-- The program that prints words, which knows hexadecimal escapes. -/
  | words
  | builtin
  deriving DecidableEq, Repr

inductive Outcome where
  | text (bytes : Octets) (rest : Octets)
  | stop
  | fault (message : Octets)

/-- The byte that a letter after a backslash stands for. -/
def letter? (c : Char) : Option Char :=
  match c with
  | '\\' => some '\\'
  | 'a' => some '\x07'
  | 'b' => some '\x08'
  | 'f' => some '\x0c'
  | 'n' => some '\n'
  | 'r' => some '\r'
  | 't' => some '\t'
  | 'v' => some '\x0b'
  | 'e' => some '\x1b'
  | _ => none

def byte (n : Nat) : Char := Char.ofNat (n % 256)

def numbered (base most : Nat) (text : Octets) : Octets × Octets :=
  let digits := (text.take most).takeWhile (isDigitIn base)
  ([byte (numberIn base digits)], text.drop digits.length)

/-- A code point of at least 160, which no byte can show. -/
def codePoint (letter : Char) (width : Nat) (text : Octets) : Outcome :=
  let digits := (text.take width).takeWhile (isDigitIn 16)
  let value := numberIn 16 digits
  if digits.length < width then .fault "missing hexadecimal number in escape"
  else if (value ≤ 0x9f && value != 0x24 && value != 0x40 && value != 0x60) ||
      (0xd800 ≤ value && value ≤ 0xdfff) then
    .fault ("invalid universal character name \\" ++ [letter] ++ digitsIn 16 width value)
  else if value < 128 then .text [Char.ofNat value] (text.drop width)
  else
    let upper := if value < 0x10000 then 'u' :: digitsIn 16 4 value else 'U' :: digitsIn 16 8 value
    .text ('\\' :: upper.take 1 ++ (upper.drop 1).map Char.toUpper) (text.drop width)

/-- Carries out the escape after a backslash. In an argument an octal number may have a leading zero
that does not count. -/
def after (dialect : Dialect) (inArgument : Bool) (text : Octets) : Outcome :=
  match text with
  | [] => .text ['\\'] []
  | c :: rest =>
    match letter? c with
    | some byte => .text [byte] rest
    | none =>
      if isDigitIn 8 c then
        let (bytes, rest) :=
          if inArgument && c = '0' && (dialect != .builtin || (rest.head?.map (isDigitIn 8)) = some true)
          then numbered 8 3 rest
          else numbered 8 3 text
        .text bytes rest
      else if c = 'c' && (inArgument || dialect = .program) then .stop
      else if dialect = .program then
        match c with
        | 'x' =>
          if (rest.head?.map (isDigitIn 16)) = some true then
            let (bytes, rest) := numbered 16 2 rest
            .text bytes rest
          else .fault "missing hexadecimal number in escape"
        | 'u' => codePoint 'u' 4 rest
        | 'U' => codePoint 'U' 8 rest
        | '"' => .text ['"'] rest
        | _ => .text ['\\', c] rest
      else if dialect = .words && c = 'x' && (rest.head?.map (isDigitIn 16)) = some true then
        let (bytes, rest) := numbered 16 2 rest
        .text bytes rest
      else .text ['\\'] text

structure Result where
  text : Octets
  stopped : Bool := false
  fault : Option Octets := none

/-- Carries out the escapes of a text, down to a number of steps. -/
def applyFrom (dialect : Dialect) (inArgument : Bool) : (fuel : Nat) → Octets → Result
  | 0, text => { text }
  | _, [] => { text := [] }
  | fuel + 1, c :: rest =>
    if c = '\\' then
      match after dialect inArgument rest with
      | .text bytes rest =>
        let later := applyFrom dialect inArgument fuel rest
        { later with text := bytes ++ later.text }
      | .stop => { text := [], stopped := true }
      | .fault message => { text := [], stopped := true, fault := some message }
    else
      let later := applyFrom dialect inArgument fuel rest
      { later with text := c :: later.text }

def argument (dialect : Dialect) (text : Octets) : Result :=
  applyFrom dialect true (text.length + 1) text

end LineShell.Machine.Escape
