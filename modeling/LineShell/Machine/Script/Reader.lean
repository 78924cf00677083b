import LineShell.Machine.Script.Basic

/-!
# Reading scripts

A script is read one complete command at a time, because what a command does may come before what is
wrong with the next one. Reading is driven by a budget that the length of the text pays for.
-/

namespace LineShell.Machine.Script

/-- A text of the script that a redirection waits for. -/
structure Awaited where
  number : Nat
  mark : Octets
  stripsTabs : Bool
  expands : Bool

structure Reader where
  rest : Octets
  line : Nat := 1
  last : Token := .endOfText
  pushedBack : Bool := false
  awaited : List Awaited := []
  documents : Array Word := #[]
  aliases : List (Octets × Octets) := []
  /-- The aliases that are being read, each with what is left after it. -/
  expanding : List (Octets × Nat) := []

abbrev Parse := StateT Reader (Except Fault)

def refuse {α : Type} (text : Octets) : Parse α := do
  let r ← get
  throw ⟨r.line, "Syntax error: " ++ text⟩

def unexpected {α : Type} (expected : Option Token) : Parse α := do
  let r ← get
  match expected with
  | none => refuse (r.last.name ++ " unexpected")
  | some token =>
    refuse ((r.last.name ++ " unexpected (expecting " ++ token.name ++ ")").take 63)

/-- A text without the joined line ends at its start, and their number. -/
def withoutJoins : Octets → Octets × Nat
  | '\\' :: '\n' :: rest =>
    let (rest, joins) := withoutJoins rest
    (rest, joins + 1)
  | text => (text, 0)

/-- The next byte, after joined lines. -/
def peek : Parse (Option Char) := do
  let r ← get
  let (rest, joins) := withoutJoins r.rest
  set { r with rest, line := r.line + joins }
  return rest.head?

/-- Takes the next byte. -/
def advance : Parse Unit :=
  modify fun r =>
    match r.rest with
    | [] => r
    | c :: rest => { r with rest, line := if c = '\n' then r.line + 1 else r.line }

/-- Takes the next byte if it is the one asked for. -/
def takeIf (c : Char) : Parse Bool := do
  if (← peek) = some c then
    advance
    return true
  else return false

def pushBack : Parse Unit := modify ({ · with pushedBack := true })

/-- Bytes that satisfy a test, the joined line ends taken out; what follows them, and the joins. -/
def spanJoined (test : Char → Bool) : Octets → Octets × Octets × Nat
  | '\\' :: '\n' :: rest =>
    let (taken, rest, joins) := spanJoined test rest
    (taken, rest, joins + 1)
  | c :: rest =>
    if test c then
      let (taken, rest, joins) := spanJoined test rest
      (c :: taken, rest, joins)
    else ([], c :: rest, 0)
  | [] => ([], [], 0)

def takeSpan (test : Char → Bool) : Parse Octets := do
  let r ← get
  let (taken, rest, joins) := spanJoined test r.rest
  set { r with rest, line := r.line + joins }
  return taken

def newlines (text : Octets) : Nat := text.count '\n'

def takeSingleQuoted : Parse Octets := do
  let r ← get
  let text := r.rest.takeWhile (· != '\'')
  let after := r.rest.drop text.length
  set { r with rest := after.drop 1, line := r.line + newlines text }
  if after.isEmpty then refuse "Unterminated quoted string" else return text

/-- The text of an old-style command substitution up to its end, and what follows it; `none` if it
has no end. -/
def backquoted? (inQuotes : Bool) : Octets → Option (Octets × Octets)
  | [] => none
  | '\x60' :: rest => some ([], rest)
  | ['\\'] => none
  | '\\' :: '\n' :: rest => backquoted? inQuotes rest
  | '\\' :: c :: rest =>
    (backquoted? inQuotes rest).map fun (text, rest) =>
      if c = '\\' || c = '\x60' || c = '$' || (inQuotes && c = '"') then (c :: text, rest)
      else ('\\' :: c :: text, rest)
  | c :: rest => (backquoted? inQuotes rest).map fun (text, rest) => (c :: text, rest)

/-- The lines of a document up to its mark, and what follows it. A line that ends in a backslash goes
on where the text expands. -/
def documentText (a : Awaited) (joins : Bool) : List Octets → Octets × List Octets
  | [] => ([], [])
  | line :: rest =>
    let line := if a.stripsTabs && !joins then line.dropWhile (· == '\t') else line
    if !joins && bareLine line = a.mark then ([], rest)
    else
      let backslashes := ((bareLine line).reverse.takeWhile (· == '\\')).length
      let (text, after) := documentText a (a.expands && backslashes % 2 = 1) rest
      (line ++ text, after)

def merged : List Piece → List Piece
  | .plain x :: rest =>
    match merged rest with
    | .plain y :: rest => .plain (x ++ y) :: rest
    | rest => .plain x :: rest
  | .quoted x :: rest =>
    match merged rest with
    | .quoted y :: rest => .quoted (x ++ y) :: rest
    | rest => .quoted x :: rest
  | piece :: rest => piece :: merged rest
  | [] => []

/-- What ends a run of pieces. -/
inductive Ending where
  | word
  | quote
  | brace
  | arithmetic (depth : Nat)
  | text
  deriving DecidableEq, Repr

structure Context where
  inQuotes : Bool
  ending : Ending
  isMark : Bool := false

def endsWord (c : Char) : Bool := "\n \t<>;&|()".toList.contains c

/-- The parameters whose name is one sign. -/
def isSign (c : Char) : Bool := "#?$!-*@".toList.contains c

def Context.piece (ctx : Context) (text : Octets) : Piece :=
  if ctx.inQuotes then .quoted text else .plain text

/-- What a byte after a backslash between double quotes stands for. -/
def Context.escaped (ctx : Context) (c : Char) : Octets :=
  if c = '\\' || c = '\x60' || c = '$' || (c = '"' && ctx.ending != .text) ||
      (c = '\x7d' && ctx.ending = .brace) then [c]
  else ['\\', c]

def markText : Word → Octets
  | [] => []
  | .plain text :: rest | .quoted text :: rest => text ++ markText rest
  | _ :: rest => markText rest

def hasQuotes : Word → Bool
  | [] => false
  | .quoted _ :: _ => true
  | .parameter _ _ _ _ true :: _ | .command _ true :: _ | .arithmetic _ true :: _ => true
  | _ :: rest => hasQuotes rest

def Command.followedBy (first second : Command) : Command :=
  if first.isNothing then second else .sequence first second

def Command.inBackground (line : Nat) : Command → Command
  | .pipeline parts _ => .pipeline parts true
  | .redirected line body redirections => .background line body redirections
  | body => .background line body []

def isAssignment : Word → Bool
  | .plain text :: _ =>
    let name := text.takeWhile isNameByte
    isName name && (text.drop name.length).head? = some '='
  | _ => false

/-- The names of commands that functions may not have. -/
def specialNames : List String :=
  [".", ":", "break", "continue", "eval", "exec", "exit", "export", "readonly", "return", "set",
    "shift", "times", "trap", "unset"]

def Arrow.descriptor : Arrow → Nat
  | .read | .readWrite | .document _ => 0
  | .write _ _ | .duplicate => 1

/-- The redirection that an arrow and its target are. A document waits for its text. -/
def completeRedirection (fd : Nat) (arrow : Arrow) (target : Word) (anyQuoted : Bool) :
    Parse Redirection := do
  match arrow with
  | .read => return .read fd target
  | .write appends clobbers => return .write fd target appends clobbers
  | .readWrite => return .readWrite fd target
  | .duplicate => return .duplicate fd target
  | .document stripsTabs =>
    let r ← get
    let number := r.documents.size
    let next : Awaited := ⟨number, markText target, stripsTabs, !anyQuoted⟩
    set { r with documents := r.documents.push [], awaited := r.awaited ++ [next] }
    return .document fd number

/-- The arrow that follows, whose first sign has been seen. -/
def arrow (sign : Char) (digit : Option Char) : Parse Token := do
  advance
  let (standard, arrow) ← if sign = '>' then do
      let arrow ←
        if ← takeIf '>' then pure (Arrow.write true false)
        else if ← takeIf '|' then pure (Arrow.write false true)
        else if ← takeIf '&' then pure Arrow.duplicate
        else pure (Arrow.write false false)
      pure (1, arrow)
    else do
      let arrow ←
        if ← takeIf '<' then do
          let strips ← takeIf '-'
          pure (Arrow.document strips)
        else if ← takeIf '&' then pure Arrow.duplicate
        else if ← takeIf '>' then pure Arrow.readWrite
        else pure Arrow.read
      pure (0, arrow)
  let fd := (digit.bind digitValue?).getD standard
  return .redirection fd arrow

def operator? (c : Char) : Parse (Option Token) := do
  match c with
  | '\n' =>
    advance
    return some .newline
  | '&' =>
    advance
    return some (if ← takeIf '&' then .andAnd else .ampersand)
  | '|' =>
    advance
    return some (if ← takeIf '|' then .orOr else .bar)
  | ';' =>
    advance
    return some (if ← takeIf ';' then .endOfClause else .semicolon)
  | '(' =>
    advance
    return some .openParen
  | ')' =>
    advance
    return some .closeParen
  | _ => return none

/-- Drops blanks, joined lines and a comment; the newline after a comment stays. -/
def skipBlanks : Octets → Octets × Nat
  | '\\' :: '\n' :: rest =>
    let (rest, joins) := skipBlanks rest
    (rest, joins + 1)
  | ' ' :: rest | '\t' :: rest => skipBlanks rest
  | '#' :: rest => (rest.dropWhile (· != '\n'), 0)
  | text => (text, 0)

/-- The way a list of commands ends. -/
inductive ListKind where
  | line
  /-- At a word that ends lists; there has to be a command. -/
  | body
  /-- At a word that ends lists; there may be no command. -/
  | open_
  deriving DecidableEq, Repr

/-- The name and form of a substitution in braces, before its word. -/
structure BraceHead where
  name : Octets
  form : Form
  emptyCounts : Bool := false
  closed : Bool := false

/-- The form that follows the name of a parameter. -/
def braceForm (name : Octets) : Parse BraceHead := do
  let colon ← takeIf ':'
  match ← peek with
  | some '\x7d' =>
    advance
    return { name, form := .value, closed := !colon }
  | some '-' =>
    advance
    return { name, form := .orWord, emptyCounts := colon }
  | some '+' =>
    advance
    return { name, form := .andWord, emptyCounts := colon }
  | some '?' =>
    advance
    return { name, form := .orFail, emptyCounts := colon }
  | some '=' =>
    advance
    return { name, form := .orAssign, emptyCounts := colon }
  | some '%' =>
    advance
    if colon then return { name, form := .unknown }
    else return { name, form := .trimEnd (← takeIf '%') }
  | some '#' =>
    advance
    if colon then return { name, form := .unknown }
    else return { name, form := .trimStart (← takeIf '#') }
  | _ =>
    modify fun r => { r with rest := r.rest.drop 1 }
    return { name, form := .unknown }

/-- The end of a substitution that asks for a length. -/
def lengthForm (name : Octets) : Parse BraceHead := do
  if ← takeIf '\x7d' then return { name, form := .length, closed := true }
  else return { name, form := .unknown }

def braceHead : Parse BraceHead := do
  match ← peek with
  | none => return { name := [], form := .unknown }
  | some c =>
    if isNameStart c then braceForm (← takeSpan isNameByte)
    else if c.isDigit then braceForm (← takeSpan Char.isDigit)
    else if c = '#' then
      advance
      match ← peek with
      | none => return { name := ['#'], form := .unknown }
      | some d =>
        if isNameStart d then lengthForm (← takeSpan isNameByte)
        else if d.isDigit then lengthForm (← takeSpan Char.isDigit)
        else
          let r ← get
          if d != '\x7d' && isSign d && (withoutJoins (r.rest.drop 1)).1.head? = some '\x7d' then
            advance
            lengthForm [d]
          else braceForm ['#']
    else if isSign c then
      advance
      braceForm [c]
    else return { name := [], form := .unknown }

mutual

def pieces : (fuel : Nat) → Context → Parse Word
  | 0, _ => refuse "text too long"
  | fuel + 1, ctx => do
    match ← peek with
    | none =>
      match ctx.ending with
      | .word | .text => return []
      | .arithmetic _ => refuse "Missing '))'"
      | .brace =>
        if ctx.inQuotes then refuse "Unterminated quoted string" else refuse "Missing '\x7d'"
      | .quote => refuse "Unterminated quoted string"
    | some c =>
      match ctx.ending, c with
      | .quote, '"' =>
        advance
        return []
      | .brace, '\x7d' =>
        advance
        return []
      | .arithmetic depth, '(' =>
        advance
        return .quoted ['('] :: (← pieces fuel { ctx with ending := .arithmetic (depth + 1) })
      | .arithmetic (depth + 1), ')' =>
        advance
        return .quoted [')'] :: (← pieces fuel { ctx with ending := .arithmetic depth })
      | .arithmetic 0, ')' =>
        advance
        if ← takeIf ')' then return []
        else return .quoted [')'] :: (← pieces fuel ctx)
      | .arithmetic _, '"' =>
        advance
        pieces fuel ctx
      | ending, _ =>
        if ending = .word && endsWord c then return []
        else
          let first ← piece fuel ctx c
          return first ++ (← pieces fuel ctx)

/-- Reads one piece, whose first byte has been seen. -/
def piece : (fuel : Nat) → Context → Char → Parse Word
  | 0, _, _ => refuse "text too long"
  | fuel + 1, ctx, c => do
    if c = '\\' then
      advance
      let r ← get
      match r.rest with
      | [] => return [.quoted ['\\']]
      | d :: _ =>
        advance
        return [.quoted (if ctx.inQuotes then ctx.escaped d else [d])]
    else if c = '\'' && !ctx.inQuotes then
      advance
      return [.quoted (← takeSingleQuoted)]
    else if c = '"' && ctx.ending != .text then
      advance
      let inside ← pieces fuel { ctx with inQuotes := true, ending := .quote }
      match inside with
      | [.parameter ['@'] .value _ _ _] => return inside
      | _ => return .quoted [] :: inside
    else if c = '$' then
      advance
      if ctx.isMark then return [.plain ['$']] else return [← dollar fuel ctx]
    else if c = '\x60' && !ctx.isMark then
      advance
      let r ← get
      match backquoted? ctx.inQuotes r.rest with
      | none =>
        set { r with line := r.line + newlines r.rest }
        refuse "EOF in backquote substitution"
      | some (text, rest) =>
        let after := { r with
          rest
          line := r.line + (newlines r.rest - newlines rest) }
        set { after with rest := text, line := 1, awaited := [], pushedBack := false }
        let body ← list fuel .open_ .nothing
        modify fun inner =>
          { after with documents := inner.documents, awaited := r.awaited, pushedBack := false }
        return [.command body ctx.inQuotes]
    else
      advance
      return [ctx.piece [c]]

def dollar : (fuel : Nat) → Context → Parse Piece
  | 0, _ => refuse "text too long"
  | fuel + 1, ctx => do
    match ← peek with
    | none => return ctx.piece ['$']
    | some c =>
      if c = '(' then
        advance
        if ← takeIf '(' then
          let expression ← pieces fuel { ctx with inQuotes := true, ending := .arithmetic 0 }
          return .arithmetic (merged expression) ctx.inQuotes
        else
          let r ← get
          set { r with awaited := [], pushedBack := false }
          let body ← list fuel .open_ .nothing
          match ← token fuel false false with
          | .closeParen =>
            modify fun inner => { inner with awaited := r.awaited, pushedBack := false }
            return .command body ctx.inQuotes
          | _ => unexpected (some .closeParen)
      else if c = '\x7b' then
        advance
        let head ← braceHead
        if head.closed then
          return .parameter head.name head.form head.emptyCounts [] ctx.inQuotes
        else
          let inner : Context :=
            match head.form with
            | .trimStart _ | .trimEnd _ => { inQuotes := false, ending := .brace }
            | _ => { inQuotes := ctx.inQuotes, ending := .brace }
          let word ← pieces fuel inner
          return .parameter head.name head.form head.emptyCounts (merged word) ctx.inQuotes
      else if isNameStart c then
        return .parameter (← takeSpan isNameByte) .value false [] ctx.inQuotes
      else if c.isDigit || isSign c then
        advance
        return .parameter [c] .value false [] ctx.inQuotes
      else return ctx.piece ['$']

/-- Reads the next token, without regard to keywords. -/
def lexeme : (fuel : Nat) → (isMark : Bool) → Parse Token
  | 0, _ => refuse "text too long"
  | fuel + 1, isMark => do
    modify fun r =>
      let (rest, joins) := skipBlanks r.rest
      { r with rest, line := r.line + joins }
    let found : Token ←
      match ← peek with
      | none => pure .endOfText
      | some c =>
        match ← operator? c with
        | some operator => pure operator
        | none =>
          let word := merged (← pieces fuel { inQuotes := false, ending := .word, isMark })
          let next ← peek
          match word, next with
          | [], some sign => arrow sign none
          | [.plain [digit]], some sign =>
            if digit.isDigit && (sign = '<' || sign = '>') then arrow sign (some digit)
            else pure (.word word false)
          | word, _ => pure (.word word (hasQuotes word))
    modify ({ · with last := found })
    return found

/-- Reads the next token. Newlines may be passed over, and keywords be told from words. -/
def token : (fuel : Nat) → (passesNewlines seesKeywords : Bool) → Parse Token
  | 0, _, _ => refuse "text too long"
  | fuel + 1, passesNewlines, seesKeywords => do
    let r ← get
    let found ←
      if r.pushedBack then do
        set { r with pushedBack := false }
        pure r.last
      else lexeme fuel false
    match found with
    | .newline =>
      if passesNewlines then
        documents fuel
        token fuel passesNewlines seesKeywords
      else return found
    | .word [.plain text] _ =>
      if seesKeywords then
        match keyword? text with
        | some which =>
          modify ({ · with last := .keyword which })
          return .keyword which
        | none =>
          let r ← get
          let active := r.expanding.filter fun (_, left) => left < r.rest.length
          match r.aliases.lookup text with
          | some value =>
            if active.any (·.1 = text) then return found
            else
              set { r with
                rest := value ++ r.rest
                expanding := (text, r.rest.length) :: active }
              token fuel passesNewlines seesKeywords
          | none => return found
      else return found
    | found => return found

/-- Reads the texts that redirections wait for. -/
def documents : (fuel : Nat) → Parse Unit
  | 0 => refuse "text too long"
  | fuel + 1 => do
    let r ← get
    match r.awaited with
    | [] => return ()
    | a :: later =>
      let (text, after) := documentText a false (linesOf r.rest)
      let next := { r with
        rest := after.flatten
        line := r.line + (newlines r.rest - newlines after.flatten)
        awaited := later }
      if a.expands then
        set { r with rest := text, awaited := [], pushedBack := false }
        let word ← pieces fuel { inQuotes := true, ending := .text }
        modify fun inner =>
          { next with documents := inner.documents.set! a.number (merged word) }
      else set { next with documents := r.documents.set! a.number [.quoted text] }
      documents fuel

/-- Reads commands up to the end of a list, after those read so far. -/
def list : (fuel : Nat) → ListKind → (sofar : Command) → Parse Command
  | 0, _, _ => refuse "text too long"
  | fuel + 1, kind, sofar => do
    let found ← token fuel (kind != .line) true
    match found with
    | .newline =>
      documents fuel
      return sofar
    | .endOfText =>
      documents fuel
      modify ({ · with last := .endOfText, pushedBack := true })
      return sofar
    | _ =>
      pushBack
      if kind = .open_ && found.endsList then return sofar
      else
        let next ← andOr fuel
        let joint ← token fuel false false
        let line := (← get).line
        let next := match joint with
          | .ampersand => next.inBackground line
          | _ => next
        let sofar := sofar.followedBy next
        let kind := if kind = .body then .open_ else kind
        match joint with
        | .endOfText =>
          documents fuel
          modify ({ · with last := .endOfText, pushedBack := true })
          return sofar
        | .newline =>
          pushBack
          list fuel kind sofar
        | .ampersand | .semicolon => list fuel kind sofar
        | _ =>
          if kind = .line then unexpected none
          else
            pushBack
            return sofar

/-- Reads pipelines joined by what has to come of the one before. -/
def andOr : (fuel : Nat) → Parse Command
  | 0 => refuse "text too long"
  | fuel + 1 => do
    let first ← pipeline fuel false
    andOrRest fuel first

def andOrRest : (fuel : Nat) → Command → Parse Command
  | 0, _ => refuse "text too long"
  | fuel + 1, first => do
    match ← token fuel false false with
    | .andAnd =>
      let second ← pipeline fuel true
      andOrRest fuel (.andThen first second)
    | .orOr =>
      let second ← pipeline fuel true
      andOrRest fuel (.orElse first second)
    | _ =>
      pushBack
      return first

def pipeline : (fuel : Nat) → (fresh : Bool) → Parse Command
  | 0, _ => refuse "text too long"
  | fuel + 1, fresh => do
    let negated ←
      match ← token fuel fresh fresh with
      | .keyword .bang => pure true
      | _ => do
        pushBack
        pure false
    let first ← command fuel false negated
    let body ←
      match ← token fuel false false with
      | .bar => do
        let rest ← pipelineRest fuel
        pure (.pipeline (first :: rest) false)
      | _ => do
        pushBack
        pure first
    return if negated then .negation body else body

def pipelineRest : (fuel : Nat) → Parse (List Command)
  | 0 => refuse "text too long"
  | fuel + 1 => do
    let next ← command fuel true true
    match ← token fuel false false with
    | .bar => return next :: (← pipelineRest fuel)
    | _ =>
      pushBack
      return [next]

def command : (fuel : Nat) → (passesNewlines seesKeywords : Bool) → Parse Command
  | 0, _, _ => refuse "text too long"
  | fuel + 1, passesNewlines, seesKeywords => do
    let line := (← get).line
    let found ← token fuel passesNewlines seesKeywords
    match found with
    | .keyword .if_ => do
      let body ← branches fuel
      expect fuel (.keyword .fi)
      withRedirections fuel line body
    | .keyword .while_ | .keyword .until_ => do
      let whileFails : Bool :=
        match found with
        | .keyword .until_ => true
        | _ => false
      let test ← list fuel .body .nothing
      expect fuel (.keyword .do_)
      let body ← list fuel .body .nothing
      expect fuel (.keyword .done)
      withRedirections fuel line (.loop whileFails test body)
    | .keyword .for_ => do
      let name ←
        match ← token fuel false false with
        | .word [.plain name] false =>
          if isName name then pure name else refuse "Bad for loop variable"
        | _ => refuse "Bad for loop variable"
      let words ←
        match ← token fuel true true with
        | .keyword .in_ => do
          let words ← wordList fuel
          match (← get).last with
          | .newline | .semicolon => pure ()
          | _ => unexpected none
          pure words
        | .semicolon => pure [[.parameter ['@'] .value false [] true]]
        | _ => do
          pushBack
          pure [[.parameter ['@'] .value false [] true]]
      match ← token fuel true true with
      | .keyword .do_ => pure ()
      | _ => unexpected (some (.keyword .do_))
      let body ← list fuel .body .nothing
      expect fuel (.keyword .done)
      withRedirections fuel line (.forEach line name words body)
    | .keyword .case_ => do
      let word ←
        match ← token fuel false false with
        | .word word _ => pure word
        | _ => unexpected (some (.word [] false))
      match ← token fuel true true with
      | .keyword .in_ => pure ()
      | _ => unexpected (some (.keyword .in_))
      let clauses ← caseClauses fuel
      withRedirections fuel line (.choice line word clauses)
    | .openParen => do
      let body ← list fuel .body .nothing
      expect fuel .closeParen
      return .subshell line body (← redirectionList fuel true)
    | .keyword .open_ => do
      let body ← list fuel .body .nothing
      expect fuel (.keyword .close)
      withRedirections fuel line body
    | .word _ _ | .redirection _ _ => do
      pushBack
      simple fuel (← get).line true [] [] []
    | _ => unexpected none

def expect : (fuel : Nat) → Token → Parse Unit
  | 0, _ => refuse "text too long"
  | fuel + 1, wanted => do
    let found ← token fuel false false
    if found.name = wanted.name then return () else unexpected (some wanted)

def wordList : (fuel : Nat) → Parse (List Word)
  | 0 => refuse "text too long"
  | fuel + 1 => do
    match ← token fuel false false with
    | .word word _ => return word :: (← wordList fuel)
    | _ => return []

/-- Reads the parts of a conditional, up to its last word. -/
def branches : (fuel : Nat) → Parse Command
  | 0 => refuse "text too long"
  | fuel + 1 => do
    let test ← list fuel .body .nothing
    expect fuel (.keyword .then_)
    let body ← list fuel .body .nothing
    match ← token fuel false false with
    | .keyword .elif => return .conditional test body (← branches fuel)
    | .keyword .else_ => return .conditional test body (← list fuel .body .nothing)
    | _ =>
      pushBack
      return .conditional test body .nothing

def caseClauses : (fuel : Nat) → Parse (List (List Word × Command))
  | 0 => refuse "text too long"
  | fuel + 1 => do
    match ← token fuel true true with
    | .keyword .esac => return []
    | .openParen => do
      let first ← token fuel false false
      caseClause fuel first
    | first => caseClause fuel first

/-- Reads a clause whose first pattern has been read, and those after it. -/
def caseClause : (fuel : Nat) → Token → Parse (List (List Word × Command))
  | 0, _ => refuse "text too long"
  | fuel + 1, first => do
    let patterns ← casePatterns fuel first
    match (← get).last with
    | .closeParen => pure ()
    | _ => unexpected (some .closeParen)
    let body ← list fuel .open_ .nothing
    match ← token fuel true true with
    | .keyword .esac => return [(patterns, body)]
    | .endOfClause => return (patterns, body) :: (← caseClauses fuel)
    | _ => unexpected (some .endOfClause)

def casePatterns : (fuel : Nat) → Token → Parse (List Word)
  | 0, _ => refuse "text too long"
  | fuel + 1, first => do
    let word : Word :=
      match first with
      | .word word _ => word
      | .keyword which =>
        match keywords.find? (·.2 = which) with
        | some (text, _) => [.plain text]
        | none => []
      | _ => []
    match ← token fuel false false with
    | .bar =>
      let next ← token fuel false false
      return word :: (← casePatterns fuel next)
    | _ => return [word]

def withRedirections : (fuel : Nat) → (line : Nat) → Command → Parse Command
  | 0, _, _ => refuse "text too long"
  | fuel + 1, line, body => do
    let redirections ← redirectionList fuel true
    return if redirections.isEmpty then body else .redirected line body redirections

def redirectionList : (fuel : Nat) → (seesKeywords : Bool) → Parse (List Redirection)
  | 0, _ => refuse "text too long"
  | fuel + 1, seesKeywords => do
    match ← token fuel false seesKeywords with
    | .redirection fd arrow =>
      let redirection ← target fuel fd arrow
      return redirection :: (← redirectionList fuel false)
    | _ =>
      pushBack
      return []

def target : (fuel : Nat) → (fd : Nat) → Arrow → Parse Redirection
  | 0, _, _ => refuse "text too long"
  | fuel + 1, fd, arrow => do
    let isMark : Bool :=
      match arrow with
      | .document _ => true
      | _ => false
    match ← lexeme fuel isMark with
    | .word word anyQuoted => completeRedirection fd arrow word anyQuoted
    | _ => unexpected none

def simple : (fuel : Nat) → (line : Nat) → (mayAssign : Bool) →
    (assignments words : List Word) → List Redirection → Parse Command
  | 0, _, _, _, _, _ => refuse "text too long"
  | fuel + 1, line, mayAssign, assignments, words, redirections => do
    match ← token fuel false false with
    | .word word _ =>
      if mayAssign && isAssignment word then
        simple fuel line true (assignments ++ [word]) words redirections
      else
        simple fuel line false assignments (words ++ [word]) redirections
    | .redirection fd arrow =>
      let redirection ← target fuel fd arrow
      simple fuel line mayAssign assignments words (redirections ++ [redirection])
    | .openParen =>
      match words, assignments, redirections with
      | [name], [], [] =>
        match ← token fuel false false with
        | .closeParen => pure ()
        | _ => unexpected (some .closeParen)
        let name := (plainText? name).getD []
        if !isName name || specialNames.contains (String.ofList name) then
          refuse "Bad function name"
        else
          let line := (← get).line
          let body ← command fuel true true
          return .define name line body
      | _, _, _ =>
        pushBack
        return .simple line assignments words redirections
    | _ =>
      pushBack
      return .simple line assignments words redirections

end

/-- Reads the next complete command; `none` at the end of the text. Says also whether the text ended
with the command. -/
def nextCommand (fuel : Nat) : Parse (Option Command × Bool) := do
  modify ({ · with pushedBack := false, awaited := [] })
  match ← token fuel false true with
  | .endOfText => return (none, true)
  | .newline =>
    documents fuel
    return (some .nothing, false)
  | _ =>
    pushBack
    let body ← list fuel .line .nothing
    let r ← get
    let ended : Bool :=
      match r.last with
      | .endOfText => r.pushedBack
      | _ => false
    return (some body, ended)

end LineShell.Machine.Script
