import LineShell.Machine.Octets

/-!
# Scripts

A script consists of commands; commands are made of words, and words of pieces: plain text, quoted
text, and the substitutions, which may hold words and commands again.
-/

namespace LineShell.Machine.Script

/-- What a substitution of a parameter does with its word. -/
inductive Form where
  | value
  | length
  | orWord
  | andWord
  | orAssign
  | orFail
  | trimStart (longest : Bool)
  | trimEnd (longest : Bool)
  | unknown
  deriving DecidableEq, Repr

mutual

/-- A piece of a word. A piece in quotes does not fall into fields. -/
inductive Piece where
  | plain (text : Octets)
  | quoted (text : Octets)
  | parameter (name : Octets) (form : Form) (emptyCounts : Bool) (word : List Piece)
    (inQuotes : Bool)
  | command (body : Command) (inQuotes : Bool)
  | arithmetic (expression : List Piece) (inQuotes : Bool)

/-- Where a descriptor of a command leads. -/
inductive Redirection where
  | read (fd : Nat) (target : List Piece)
  | write (fd : Nat) (target : List Piece) (appends : Bool) (clobbers : Bool)
  | readWrite (fd : Nat) (target : List Piece)
  | duplicate (fd : Nat) (target : List Piece)
  | document (fd : Nat) (number : Nat)

inductive Command where
  | nothing
  | simple (line : Nat) (assignments words : List (List Piece)) (redirections : List Redirection)
  | redirected (line : Nat) (body : Command) (redirections : List Redirection)
  | subshell (line : Nat) (body : Command) (redirections : List Redirection)
  | background (line : Nat) (body : Command) (redirections : List Redirection)
  | pipeline (parts : List Command) (inBackground : Bool)
  | andThen (first second : Command)
  | orElse (first second : Command)
  | sequence (first second : Command)
  | negation (body : Command)
  | conditional (test body otherwise : Command)
  | loop (whileFails : Bool) (test body : Command)
  | forEach (line : Nat) (name : Octets) (words : List (List Piece)) (body : Command)
  | choice (line : Nat) (word : List Piece) (clauses : List (List (List Piece) × Command))
  | define (name : Octets) (line : Nat) (body : Command)

end

instance : Inhabited Piece := ⟨.plain []⟩
instance : Inhabited Command := ⟨.nothing⟩

abbrev Word := List Piece

/-- The text of a word that consists of plain text alone. -/
def plainText? : Word → Option Octets
  | [] => some []
  | .plain text :: rest => (plainText? rest).map (text ++ ·)
  | _ => none

def Command.isNothing : Command → Bool
  | .nothing => true
  | _ => false

/-- The words with a meaning of their own at the start of a command. -/
inductive Keyword where
  | bang | case_ | do_ | done | elif | else_ | esac | fi | for_ | if_ | in_ | then_ | until_
  | while_ | open_ | close
  deriving DecidableEq, Repr

def keywords : List (String × Keyword) := [
  ("!", .bang), ("case", .case_), ("do", .do_), ("done", .done), ("elif", .elif),
  ("else", .else_), ("esac", .esac), ("fi", .fi), ("for", .for_), ("if", .if_), ("in", .in_),
  ("then", .then_), ("until", .until_), ("while", .while_), ("\x7b", .open_), ("\x7d", .close)]

def keyword? (text : Octets) : Option Keyword := keywords.lookup (String.ofList text)

/-- A redirection whose target has still to be read. -/
inductive Arrow where
  | read
  | write (appends clobbers : Bool)
  | readWrite
  | duplicate
  | document (stripsTabs : Bool)
  deriving DecidableEq, Repr

inductive Token where
  | endOfText
  | newline
  | semicolon
  | ampersand
  | andAnd
  | orOr
  | bar
  | openParen
  | closeParen
  | endOfClause
  | redirection (fd : Nat) (arrow : Arrow)
  | keyword (which : Keyword)
  | word (pieces : Word) (anyQuoted : Bool)

def Token.name : Token → Octets
  | .endOfText => "end of file"
  | .newline => "newline"
  | .semicolon => "\";\""
  | .ampersand => "\"&\""
  | .andAnd => "\"&&\""
  | .orOr => "\"||\""
  | .bar => "\"|\""
  | .openParen => "\"(\""
  | .closeParen => "\")\""
  | .endOfClause => "\";;\""
  | .redirection _ _ => "redirection"
  | .keyword which =>
    match keywords.find? (·.2 = which) with
    | some (text, _) => '"' :: Octets.ofString text ++ ['"']
    | none => []
  | .word _ _ => "word"

def Token.endsList : Token → Bool
  | .endOfText | .closeParen | .endOfClause => true
  | .keyword which =>
    [Keyword.do_, .done, .elif, .else_, .esac, .fi, .then_, .close].contains which
  | _ => false

/-- What is wrong with a script, and the line where that was seen. -/
structure Fault where
  line : Nat
  text : Octets

end LineShell.Machine.Script
