import LineShell.Errno
import LineShell.Machine.Escape
import LineShell.Machine.Format

/-!
# Templates

A template is text with escapes and conversions. It is printed as often as there are arguments for
its conversions; an argument that is missing counts as empty or zero.
-/

namespace LineShell.Machine.Template

open Escape (Dialect)

/-- How far a template has been printed. -/
structure Progress where
  printed : List Octets := []
  arguments : List Octets
  warnings : List Octets := []
  failed : Bool := false
  stopped : Bool := false
  fatal : Option Octets := none

namespace Progress

def print (p : Progress) (text : Octets) : Progress := { p with printed := text :: p.printed }

def warn (p : Progress) (text : Octets) : Progress :=
  { p with warnings := text :: p.warnings, failed := true }

def fail (p : Progress) (text : Octets) : Progress :=
  { p with fatal := some text, failed := true, stopped := true }

def next (p : Progress) : Option Octets × Progress :=
  match p.arguments with
  | [] => (none, p)
  | arg :: rest => (some arg, { p with arguments := rest })

end Progress

def argumentName (dialect : Dialect) (arg : Octets) : Octets :=
  match dialect with
  | .builtin => arg
  | _ => quotedWord arg

/-- What is said of an argument that is no number. -/
def numberFault? (dialect : Dialect) (arg rest : Octets) (found outOfRange : Bool) : Option Octets :=
  let name := argumentName dialect arg
  if outOfRange && (dialect = .program || rest.isEmpty) then
    some (name ++ ": " ++ Errno.text 34)
  else if rest.isEmpty then none
  else
    match dialect with
    | .builtin =>
      some (name ++ (if found then ": not completely converted" else ": expected numeric value"))
    | _ =>
      some (name ++ (if found then ": value not completely converted" else
        ": expected a numeric value"))

/-- The value of an argument that starts with a quote: the byte after it. -/
def quotedByte? (dialect : Dialect) (arg : Octets) : Option Nat :=
  match arg with
  | '"' :: rest | '\'' :: rest =>
    match rest with
    | c :: _ => some c.toNat
    | [] => if dialect = .builtin then some 0 else none
  | _ => none

def nextInteger (dialect : Dialect) (isSigned : Bool) (p : Progress) : Int × Progress :=
  match p.next with
  | (none, p) => (0, p)
  | (some arg, p) =>
    match quotedByte? dialect arg with
    | some n =>
      let p :=
        if dialect = .program && 2 < arg.length then
          { p with warnings := ("warning: " ++ arg.drop 2 ++
            ": character(s) following character constant have been ignored") :: p.warnings }
        else p
      (n, p)
    | none =>
      let n := Numeral.read 0 arg
      let outOfRange := if isSigned then n.isOutOfRange else greatestNatural < n.magnitude
      let value : Int :=
        if isSigned then n.clamped
        else if outOfRange then greatestNatural
        else n.value % (greatestNatural + 1)
      match numberFault? dialect arg n.rest n.found outOfRange with
      | some text => (value, p.warn text)
      | none => (value, p)

/-- The bits of a fraction that a program holds. -/
def significantBits : Dialect → Nat
  | .builtin => 53
  | _ => 64

def nextFraction (dialect : Dialect) (p : Progress) : Fraction × Progress :=
  match p.next with
  | (none, p) => (.fraction false 0 1, p)
  | (some arg, p) =>
    match quotedByte? dialect arg with
    | some n => (.fraction false n 1, p)
    | none =>
      match Fraction.read? arg with
      | some (value, rest) =>
        (value.inBits (significantBits dialect),
          match numberFault? dialect arg rest true false with
          | some text => p.warn text
          | none => p)
      | none =>
        (.fraction false 0 1,
          match numberFault? dialect arg arg false false with
          | some text => p.warn text
          | none => p)

/-- The letters of sizes, which change nothing. -/
def isSizeLetter (c : Char) : Bool := "hlLjzt".toList.contains c

def convert (dialect : Dialect) (c : Conversion) (shown : Octets) (p : Progress) : Progress :=
  match c.letter with
  | 's' =>
    let (arg, p) := p.next
    p.print (c.text (arg.getD []))
  | 'b' =>
    let (arg, p) := p.next
    let result := Escape.argument dialect (arg.getD [])
    let p := p.print (c.text result.text)
    match result.fault with
    | some text => p.fail text
    | none => { p with stopped := result.stopped }
  | 'c' =>
    let (arg, p) := p.next
    p.print (c.field [(arg.getD []).head?.getD '\x00'])
  | 'd' | 'i' =>
    let (value, p) := nextInteger dialect true p
    p.print (c.integer value)
  | 'o' | 'u' | 'x' | 'X' =>
    let (value, p) := nextInteger dialect false p
    p.print (c.natural value.toNat)
  | 'e' | 'E' | 'f' | 'F' | 'g' | 'G' =>
    let (value, p) := nextFraction dialect p
    p.print (value.write c)
  | 'q' =>
    if dialect = .program then
      let (arg, p) := p.next
      p.print ((arg.map shownName).getD [])
    else p.fail (shown ++ ": invalid directive")
  | _ =>
    match dialect with
    | .builtin => p.fail (shown ++ ": invalid directive")
    | _ => p.fail (shown ++ ": invalid conversion specification")

/-- Reads the width or the precision of a conversion: digits, or a star for the next argument. -/
def measure (dialect : Dialect) (text : Octets) (p : Progress) : Option Int × Octets × Progress :=
  match text with
  | '*' :: rest =>
    let (value, p) := nextInteger dialect true p
    (some value, rest, p)
  | _ =>
    let digits := text.takeWhile Char.isDigit
    (if digits.isEmpty then none else some (numberIn 10 digits), text.drop digits.length, p)

/-- Whether a byte between a percent sign and the width is a flag. -/
def isFlag (dialect : Dialect) (c : Char) : Bool :=
  "#-+ 0".toList.contains c || (dialect = .program && (c = '\'' || c = 'I'))

/-- Whether a flag has a meaning for the conversion of a letter. -/
def flagSuits (letter flag : Char) : Bool :=
  match flag with
  | '\'' | 'I' => !"aAceEosxX".toList.contains letter
  | '#' => !"cdisu".toList.contains letter
  | '0' => letter != 'c' && letter != 's'
  | _ => true

/-- Whether a conversion may be carried out as it is written. The program refuses what has no meaning:
unsuitable flags, characters cut to a length, and all that stands between the percent sign and the
letters of escaped and quoted texts. -/
def isProper (dialect : Dialect) (letter : Char) (flags between : Octets) (isCut : Bool) : Bool :=
  dialect != .program ||
    ((letter != 'b' && letter != 'q' || between.isEmpty) && flags.all (flagSuits letter) &&
      (letter != 'c' || !isCut))

/-- Prints the conversion that a text after a percent sign begins with. Gives what follows it. -/
def conversion (dialect : Dialect) (text : Octets) (p : Progress) : Octets × Progress :=
  let flags := text.takeWhile (isFlag dialect)
  let c := flags.foldl Conversion.withFlag {}
  let (width, rest, p) := measure dialect (text.drop flags.length) p
  let c := c.withWidth (width.getD 0)
  let isCut := rest.head? = some '.'
  let (c, rest, p) :=
    match rest with
    | '.' :: rest =>
      let (precision, rest, p) := measure dialect rest p
      let places := precision.getD 0
      ({ c with precision := if places < 0 then none else some places.toNat }, rest, p)
    | rest => (c, rest, p)
  let rest := if dialect = .program then rest.dropWhile isSizeLetter else rest
  match rest with
  | [] =>
    match dialect with
    | .builtin => ([], p.fail "missing format character")
    | _ => ([], p.fail ('%' :: text ++ ": invalid conversion specification"))
  | letter :: rest =>
    let between := text.take (text.length - rest.length - 1)
    let shown := '%' :: between ++ [letter]
    if isProper dialect letter flags between isCut then
      (rest, convert dialect { c with letter } shown p)
    else (rest, p.fail (shown ++ ": invalid conversion specification"))

def once (dialect : Dialect) : (fuel : Nat) → Octets → Progress → Progress
  | 0, _, p => p
  | _, [], p => p
  | fuel + 1, c :: rest, p =>
    if p.stopped then p
    else if c = '\\' then
      match Escape.after dialect false rest with
      | .text bytes rest => once dialect fuel rest (p.print bytes)
      | .stop => { p with stopped := true }
      | .fault message => p.fail message
    else if c = '%' then
      match rest with
      | '%' :: rest => once dialect fuel rest (p.print ['%'])
      | _ =>
        let (rest, p) := conversion dialect rest p
        once dialect fuel rest p
    else once dialect fuel rest (p.print [c])

/-- Prints a template as often as there are arguments for it. -/
def repeated (dialect : Dialect) (template : Octets) : (fuel : Nat) → Progress → Progress
  | 0, p => p
  | fuel + 1, p =>
    let after := once dialect (template.length + 1) template p
    if after.stopped || after.arguments.isEmpty || after.arguments.length = p.arguments.length then
      after
    else repeated dialect template fuel after

def run (dialect : Dialect) (template : Octets) (arguments : List Octets) : Progress :=
  repeated dialect template (arguments.length + 1) { arguments }

def Progress.output (p : Progress) : Octets := p.printed.reverse.flatten

end LineShell.Machine.Template
