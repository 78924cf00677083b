import LineShell.Line.Split

/-!
# Argument vectors

A command line gives a command and its arguments. A tokenizer keeps a bounded number of words, one
slot of its limit being set aside for the end mark; it also says whether words were left over.
-/

namespace LineShell

/-- The words kept of one line. There is always a command, so a vector is never empty. -/
structure ArgumentVector where
  command : String
  arguments : List String
  truncated : Bool
  deriving DecidableEq, Repr

namespace ArgumentVector

def tokens (args : ArgumentVector) : List String := args.command :: args.arguments

def size (args : ArgumentVector) : Nat := args.tokens.length

/-- A token by its place; the command has place 0. -/
def get? (args : ArgumentVector) (place : Nat) : Option String := args.tokens[place]?

/-- The vector of some words; `none` if there are none. -/
def ofTokens? (truncated : Bool) : List String → Option ArgumentVector
  | [] => none
  | command :: arguments => some { command, arguments, truncated }

theorem tokens_ne_nil (args : ArgumentVector) : args.tokens ≠ [] := by simp [tokens]

@[simp] theorem get?_size (args : ArgumentVector) : args.get? args.size = none := by
  simp [get?, size]

theorem ofTokens?_eq_some {truncated : Bool} {words : List String} {args : ArgumentVector} :
    ofTokens? truncated words = some args ↔ words = args.tokens ∧ args.truncated = truncated := by
  cases words with
  | nil => simp [ofTokens?, tokens]
  | cons command arguments =>
    cases args
    simp only [ofTokens?, tokens, Option.some.injEq, mk.injEq, List.cons.injEq]
    grind

end ArgumentVector

/-- A line without the newline that ends it, if one does. -/
def lineBody (line : List Char) : List Char :=
  if line.getLast? = some '\n' then line.dropLast else line

/-- How a line becomes an argument vector. -/
structure Tokenizer where
  /-- The slots of a vector, the one for the end mark included. -/
  maxArgs : Nat
  mode : SplitMode
  deriving DecidableEq, Repr

namespace Tokenizer

/-- The number of words kept of a line; at least the command is. -/
def capacity (t : Tokenizer) : Nat := max (t.maxArgs - 1) 1

/-- The room set aside before the words of a line are counted: no line of that many bytes has more
words than this, whatever separates them. -/
def reservation (t : Tokenizer) (body : String) : Nat :=
  min t.capacity (body.utf8ByteSize / 2 + 1)

def words (t : Tokenizer) (body : List Char) : List String :=
  (Text.words t.mode.separates body).map String.ofList

/-- The line without its newline. It is what the words are taken from, and what the buffer of the
line holds when they are. -/
def body (line : String) : String := String.ofList (lineBody line.toList)

/-- The argument vector of a line; `none` for a blank line. -/
def tokenize (t : Tokenizer) (line : String) : Option ArgumentVector :=
  let body := lineBody line.toList
  if Text.isAllBlank body then none
  else
    let words := t.words body
    ArgumentVector.ofTokens? (decide (t.capacity < words.length)) (words.take t.capacity)

end Tokenizer

end LineShell
