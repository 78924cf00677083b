import LineShell.Machine.Arithmetic
import LineShell.Machine.Interpreter.Fields
import LineShell.Machine.Interpreter.Options

/-!
# Expansion

The pieces of a word are replaced by what they stand for: parameters by their values, commands by
their output, expressions by their numbers. How a command is run is left to whoever expands.
-/

namespace LineShell.Machine.Interpreter

open Machine.Script (Command Form Piece Word)

/-- How a command gives the text that stands for it. -/
abbrev Substitute := Command → Run Octets

structure Surroundings where
  splits : Bool
  /-- Plain text may separate fields, as in the word of a substitution. -/
  plainSplits : Bool := false
  substitute : Substitute

def glyphsOf (quoted splits : Bool) (text : Octets) : List Glyph :=
  text.map fun c => .char c quoted splits

def substituted (inQuotes : Bool) (text : Octets) : List Glyph :=
  if inQuotes then glyphsOf true false text else .edge :: glyphsOf false true text ++ [.edge]

def argumentGlyphs (s : State) (splits inQuotes : Bool) (star : Bool) : List Glyph :=
  let separator : Octets := s.separators.take 1
  if inQuotes && !star && splits then
    (s.arguments.map fun arg => Glyph.mark :: glyphsOf true false arg).intersperse [.gap] |>.flatten
  else if inQuotes || !splits then
    substituted inQuotes (joined separator s.arguments)
  else
    .edge :: ((s.arguments.map (glyphsOf false true)).intersperse [.joint]).flatten ++ [.edge]

/-- The value of a parameter other than all arguments; `none` if it is unset. -/
def parameter? (s : State) (name : Octets) : Option Octets :=
  match name with
  | ['#'] => some (decimal s.arguments.length)
  | ['?'] => some (decimal s.status)
  | ['$'] => some (decimal s.mainPid)
  | ['!'] => s.lastBeside.map decimal
  | ['-'] => some ((scriptOptions.map (·.2)).reverse.filter fun c => c != ' ' && s.options.contains c)
  | ['@'] | ['*'] => some (joined (s.separators.take 1) s.arguments)
  | _ =>
    match number? name with
    | some 0 => some s.name
    | some n => s.arguments[n - 1]?
    | none => s.text? name

def unsetFault (name : Octets) (emptyCounts : Bool) : Octets :=
  name ++ ": parameter not set" ++ (if emptyCounts then " or null" else "")

/-- Evaluates an expression, and carries out its assignments. -/
def calculated (expression : Octets) : Run Int := do
  let s ← get
  match Arithmetic.evaluate (fun name => s.text? name) expression with
  | .ok (value, assignments) =>
    for (name, value) in assignments do assign name (signedDecimal value)
    return value
  | .error text => fail text

/-- The home of a user whose name follows a tilde, or of the current one. -/
def homeOf? (s : State) (user : Octets) : Option Octets :=
  if user.isEmpty then s.text? "HOME"
  else if user = "root" then some "/root"
  else none

/-- Replaces a tilde at the start of a text that ends with the text or with one of some bytes. -/
def tilde (s : State) (stops : Octets) (isLast : Bool) (text : Octets) : List Glyph × Octets :=
  match text with
  | '~' :: rest =>
    let user := rest.takeWhile fun c => !stops.contains c
    let after := rest.drop user.length
    if after.isEmpty && !isLast then ([], text)
    else
      match homeOf? s user with
      | some home => (.mark :: glyphsOf true false home, after)
      | none => ([], text)
  | _ => ([], text)

/-- Replaces the tildes after the colons of an assigned text, down to a number of them. -/
def colonTildes (s : State) (isLast : Bool) : (fuel : Nat) → Octets → List Glyph
  | 0, text => glyphsOf false false text
  | fuel + 1, text =>
    let (home, rest) := tilde s ['/', ':'] isLast text
    let part := rest.takeWhile (· != ':')
    let glyphs := home ++ glyphsOf false false part
    match rest.drop part.length with
    | [] => glyphs
    | colon :: rest => glyphs ++ glyphsOf false false [colon] ++ colonTildes s isLast fuel rest

mutual

/-- The glyphs of a word, down to a depth of substitutions. -/
def expandPieces : (fuel : Nat) → Surroundings → Word → Run (List Glyph)
  | 0, _, _ => fail "Bad substitution"
  | fuel + 1, at_, word => do
    let mut glyphs : List (List Glyph) := []
    for piece in word do glyphs := (← expandPiece fuel at_ piece) :: glyphs
    return glyphs.reverse.flatten

def expandPiece : (fuel : Nat) → Surroundings → Piece → Run (List Glyph)
  | 0, _, _ => fail "Bad substitution"
  | fuel + 1, at_, piece => do
    match piece with
    | .plain text => return glyphsOf false at_.plainSplits text
    | .quoted text => return .mark :: glyphsOf true false text
    | .command body inQuotes => return substituted inQuotes (← at_.substitute body)
    | .arithmetic expression inQuotes =>
      let glyphs ← expandPieces fuel { at_ with splits := false } expression
      let value ← calculated (Field.text (wholeField glyphs))
      return substituted inQuotes (signedDecimal value)
    | .parameter name form emptyCounts word inQuotes =>
      if form = .unknown then fail "Bad substitution"
      else
        let s ← get
        let value := parameter? s name
        let missing : Bool :=
          match value with
          | none => true
          | some text => emptyCounts && text.isEmpty
        let inner : Surroundings := { at_ with plainSplits := !inQuotes }
        let all : Bool := name = ['@'] || name = ['*']
        let plainValue (s : State) : List Glyph :=
          if all then argumentGlyphs s at_.splits inQuotes (name = ['*'])
          else substituted inQuotes ((parameter? s name).getD [])
        let checked (result : List Glyph) : Run (List Glyph) :=
          if missing && !all && s.options.contains 'u' then fail (unsetFault name false)
          else return result
        match form with
        | .value => checked (plainValue s)
        | .length => checked (substituted inQuotes (decimal (value.getD []).length))
        | .orWord => if missing then expandPieces fuel inner word else return plainValue s
        | .andWord => if missing then return [] else expandPieces fuel inner word
        | .orAssign =>
          if missing then
            if isName name then
              let glyphs ← expandPieces fuel { at_ with splits := false } word
              assign name (Field.text (wholeField glyphs))
              return plainValue (← get)
            else fail (name ++ ": bad variable name")
          else return plainValue s
        | .orFail =>
          if missing then
            let glyphs ← expandPieces fuel { at_ with splits := false } word
            if word.isEmpty then fail (unsetFault name emptyCounts)
            else fail (name ++ ": " ++ Field.text (wholeField glyphs))
          else return plainValue s
        | .trimStart longest =>
          let pattern := wholeField (← expandPieces fuel { at_ with splits := false } word)
          checked (substituted inQuotes (Pattern.trimStart pattern longest (value.getD [])))
        | .trimEnd longest =>
          let pattern := wholeField (← expandPieces fuel { at_ with splits := false } word)
          checked (substituted inQuotes (Pattern.trimEnd pattern longest (value.getD [])))
        | .unknown => fail "Bad substitution"

end

/-- The depth that substitutions may be nested to. -/
def deepest : Nat := 400

/-- The glyphs of a word that may start with a tilde. -/
def expandWord (at_ : Surroundings) (word : Word) : Run (List Glyph) := do
  match word with
  | .plain text :: rest =>
    let (home, text) := tilde (← get) ['/'] rest.isEmpty text
    return home ++ (← expandPieces deepest at_ (.plain text :: rest))
  | _ => expandPieces deepest at_ word

/-- The texts that words give as the arguments of a command. -/
def expandToFields (substitute : Substitute) (word : Word) : Run (List Octets) := do
  let glyphs ← expandWord { splits := true, substitute } word
  let s ← get
  let fields := fieldsOf s.separators glyphs
  if s.options.contains 'f' then return fields.map Field.text
  else return fields.flatMap (matched s.job)

def expandToField (substitute : Substitute) (word : Word) : Run Field := do
  return wholeField (← expandWord { splits := false, substitute } word)

/-- The text of a word that does not fall into fields. -/
def expandToText (substitute : Substitute) (word : Word) : Run Octets := do
  return Field.text (← expandToField substitute word)

def expandDocument (substitute : Substitute) (word : Word) : Run Octets := do
  return Field.text (wholeField (← expandPieces deepest { splits := false, substitute } word))

/-- The name and value of an assignment. Tildes may follow the sign and each colon. -/
def expandAssignment (substitute : Substitute) (word : Word) : Run (Octets × Octets) := do
  match word with
  | .plain text :: rest =>
    let name := text.takeWhile isNameByte
    let value := text.drop (name.length + 1)
    let s ← get
    let first := colonTildes s rest.isEmpty (value.length + 1) value
    let glyphs ← expandPieces deepest { splits := false, substitute } rest
    return (name, Field.text (wholeField (first ++ glyphs)))
  | _ => return ([], [])

end LineShell.Machine.Interpreter
