import LineShell.Machine.Octets

/-!
# Patterns

A pattern matches texts: a star any text, a question mark any byte, a bracket the bytes of a set. A
byte that was quoted stands for itself.
-/

namespace LineShell.Machine

abbrev MarkedChar := Char × Bool

namespace Pattern

inductive Member where
  | range (low high : Char)
  | group (test : Char → Bool)

def Member.holds (c : Char) : Member → Bool
  | .range low high => low ≤ c && c ≤ high
  | .group test => test c

inductive Part where
  | exactly (c : Char)
  | anyByte
  | anyText
  | oneOf (inverted : Bool) (members : List Member)

def groups : List (String × (Char → Bool)) := [
  ("alpha", Char.isAlpha),
  ("digit", Char.isDigit),
  ("alnum", Char.isAlphanum),
  ("upper", Char.isUpper),
  ("lower", Char.isLower),
  ("space", isWhiteByte),
  ("blank", fun c => c = ' ' || c = '\t'),
  ("punct", fun c => isPrinted c && c != ' ' && !c.isAlphanum),
  ("print", isPrinted),
  ("graph", fun c => isPrinted c && c != ' '),
  ("cntrl", fun c => c < ' ' || c = '\x7f'),
  ("xdigit", isDigitIn 16)]

/-- The named group that a text after a bracket begins with, and what follows it. -/
def group? (text : List MarkedChar) : Option (Member × List MarkedChar) :=
  match text with
  | (':', _) :: rest =>
    let name := (rest.takeWhile fun c => c.1 != ':').map (·.1)
    match rest.drop name.length with
    | (':', _) :: (']', _) :: rest =>
      (groups.lookup (String.ofList name)).map fun test => (.group test, rest)
    | _ => none
  | _ => none

/-- The members of a set up to its closing bracket, and what follows it. The first byte is a member
whatever it is. -/
def members? (first : Bool) : (fuel : Nat) → List MarkedChar → Option (List Member × List MarkedChar)
  | 0, _ => none
  | _, [] => none
  | fuel + 1, (c, quoted) :: rest =>
    if c = ']' && !quoted && !first then some ([], rest)
    else
      let more (member : Member) (rest : List MarkedChar) :=
        (members? false fuel rest).map fun (members, rest) => (member :: members, rest)
      let single (c : Char) (rest : List MarkedChar) :=
        match rest with
        | ('-', false) :: (high, highQuoted) :: after =>
          if high = ']' && !highQuoted then more (.range c c) rest
          else if high = '\\' && !highQuoted then
            match after with
            | (high, _) :: after => more (.range c high) after
            | [] => none
          else more (.range c high) after
        | _ => more (.range c c) rest
      if c = '[' && !quoted then
        match group? rest with
        | some (member, rest) => more member rest
        | none => single c rest
      else if c = '\\' && !quoted then
        match rest with
        | (c, _) :: rest => single c rest
        | [] => none
      else single c rest

/-- The set that a text after a bracket begins with, and what follows it. -/
def set? (text : List MarkedChar) : Option (Part × List MarkedChar) :=
  let (inverted, inside) :=
    match text with
    | ('!', false) :: rest => (true, rest)
    | text => (false, text)
  (members? true (inside.length + 1) inside).map fun (members, rest) =>
    (.oneOf inverted members, rest)

def partsFrom : (fuel : Nat) → List MarkedChar → List Part
  | 0, _ => []
  | _, [] => []
  | fuel + 1, (c, quoted) :: rest =>
    if quoted then .exactly c :: partsFrom fuel rest
    else if c = '*' then .anyText :: partsFrom fuel rest
    else if c = '?' then .anyByte :: partsFrom fuel rest
    else if c = '[' then
      match set? rest with
      | some (part, rest) => part :: partsFrom fuel rest
      | none => .exactly c :: partsFrom fuel rest
    else if c = '\\' then
      match rest with
      | (c, _) :: rest => .exactly c :: partsFrom fuel rest
      | [] => [.exactly c]
    else .exactly c :: partsFrom fuel rest

def parts (text : List MarkedChar) : List Part := partsFrom text.length text

def anyTail (test : Octets → Bool) : Octets → Bool
  | [] => test []
  | c :: rest => test (c :: rest) || anyTail test rest

def accepts : List Part → Octets → Bool
  | [], text => text.isEmpty
  | .anyText :: rest, text => anyTail (accepts rest) text
  | .exactly c :: rest, d :: text => c = d && accepts rest text
  | .anyByte :: rest, _ :: text => accepts rest text
  | .oneOf inverted members :: rest, d :: text =>
    (members.any (Member.holds d) != inverted) && accepts rest text
  | _ :: _, [] => false

def matchesText (pattern : List MarkedChar) (text : Octets) : Bool := accepts (parts pattern) text

/-- Whether a text could match anything but itself. -/
def isOpen (text : List MarkedChar) : Bool :=
  text.any fun (c, quoted) => !quoted && (c = '*' || c = '?' || c = '[')

/-- The beginnings of a text with what follows them, the shortest first. -/
def cuts (text : Octets) : List (Octets × Octets) :=
  (List.range (text.length + 1)).map fun n => (text.take n, text.drop n)

/-- A text without its shortest or longest beginning that matches. -/
def trimStart (pattern : List MarkedChar) (longest : Bool) (text : Octets) : Octets :=
  let parts := parts pattern
  let cuts := if longest then (cuts text).reverse else cuts text
  match cuts.find? fun cut => accepts parts cut.1 with
  | some (_, rest) => rest
  | none => text

/-- A text without its shortest or longest end that matches. -/
def trimEnd (pattern : List MarkedChar) (longest : Bool) (text : Octets) : Octets :=
  let parts := parts pattern
  let cuts := if longest then cuts text else (cuts text).reverse
  match cuts.find? fun cut => accepts parts cut.2 with
  | some (front, _) => front
  | none => text

end Pattern

end LineShell.Machine
