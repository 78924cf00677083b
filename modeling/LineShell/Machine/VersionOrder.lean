import LineShell.Machine.Octets

/-!
# The order of versions

Names with numbers in them are ordered by the numbers: digits count as one number, a tilde comes
before the end of a name, letters before all other signs. The endings of file names count only where
the rest is equal.
-/

namespace LineShell.Machine.VersionOrder

/-- The rank of a byte that is no digit, or of the end of a name. -/
def rank : Option Char → Int
  | none => -1
  | some c =>
    if c.isDigit then 0 else if c.isAlpha then c.toNat else if c = '~' then -2 else c.toNat + 256

/-- Whether a name goes on with something else than a digit. -/
def goesOn (name : Octets) : Bool := (name.head?.map Char.isDigit) = some false

/-- Compares what precedes the digits of two names. Gives what is left of them if that is equal. -/
def compareSigns : (fuel : Nat) → Octets → Octets → Except Ordering (Octets × Octets)
  | 0, x, y => .ok (x, y)
  | fuel + 1, x, y =>
    if goesOn x || goesOn y then
      let (a, b) := (rank x.head?, rank y.head?)
      if a = b then compareSigns fuel x.tail y.tail else .error (compare a b)
    else .ok (x, y)

/-- Compares two names, alternating between signs and numbers. -/
def compareNames : (fuel : Nat) → Octets → Octets → Ordering
  | 0, _, _ => .eq
  | fuel + 1, x, y =>
    if x.isEmpty && y.isEmpty then .eq
    else
      match compareSigns (x.length + y.length) x y with
      | .error order => order
      | .ok (x, y) =>
        let (a, b) := (x.takeWhile Char.isDigit, y.takeWhile Char.isDigit)
        match compare (numberIn 10 a) (numberIn 10 b) with
        | .eq => compareNames fuel (x.drop a.length) (y.drop b.length)
        | order => order

/-- Whether a text consists of file name endings: points, each with a letter after it and then
letters, digits and tildes. -/
def isEnding (text : Octets) : Bool :=
  match text with
  | [] => true
  | '.' :: _ =>
    ((text.splitOn '.').drop 1).all fun part =>
      (part.head?.any fun c => c.isAlpha || c = '~') && part.all fun c => c.isAlphanum || c = '~'
  | _ => false

/-- A name without its endings. At least one byte of a name stays. -/
def withoutEndings (name : Octets) : Octets :=
  match (List.range name.length).find? fun n => isEnding (name.drop (n + 1)) with
  | some n => name.take (n + 1)
  | none => name

/-- Compares the names of files: hidden ones come first. -/
def compareFiles (x y : Octets) : Ordering :=
  let first (name : Octets) : Nat :=
    if name.isEmpty then 0
    else if name = ['.'] then 1
    else if name = ['.', '.'] then 2
    else if name.head? = some '.' then 3
    else 4
  match compare (first x) (first y) with
  | .eq =>
    let fuel := x.length + y.length + 1
    match compareNames fuel (withoutEndings x) (withoutEndings y) with
    | .eq => compareNames fuel x y
    | order => order
  | order => order

/-- Whether a name does not come after another; names that count as equal are in the order of their
bytes. -/
def notAfter (x y : Octets) : Bool :=
  match compareFiles x y with
  | .lt => true
  | .eq => Machine.notAfter x y
  | .gt => false

end LineShell.Machine.VersionOrder
