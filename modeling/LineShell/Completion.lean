import LineShell.Text.Blank
import LineShell.Text.Fit
import LineShell.Text.Utf8

/-!
# Completing a command

The first word of a line is completed from the names of the builtins and of the files in the
directories that commands are searched in. Arguments are left alone.
-/

namespace LineShell

/-- What a directory entry is, as far as completion asks. -/
inductive EntryKind where
  | file
  | symlink
  | directory
  | other
  deriving DecidableEq, Repr

structure DirectoryEntry where
  name : List UInt8
  kind : EntryKind
  deriving DecidableEq, Repr

/-- The name that an entry offers: a file or a link whose name is text. -/
def DirectoryEntry.commandName? (entry : DirectoryEntry) : Option String :=
  if entry.kind = .file ∨ entry.kind = .symlink then
    (Text.Utf8.decode? entry.name).map String.ofList
  else none

structure Completion where
  start : Nat
  candidates : List String
  deriving DecidableEq, Repr

namespace Completion

/-- Puts a name at its place in a strictly ascending list. -/
def insertName (name : String) : List String → List String
  | [] => [name]
  | other :: rest =>
    if name < other then name :: other :: rest
    else if name = other then other :: rest
    else other :: insertName name rest

/-- The names of the builtins and of the entries of the searched directories, each once. -/
def commandNames (builtins : List String) (directories : List (List DirectoryEntry)) :
    List String :=
  (builtins ++ directories.flatten.filterMap DirectoryEntry.commandName?).foldr insertName []

def startingWith (names : List String) (beginning : List Char) : List String :=
  names.filter fun name => beginning.isPrefixOf name.toList

/-- Completes a line at a byte position; `none` if the position is inside a character or past the
end. -/
def complete (names : List String) (line : String) (position : Nat) : Option Completion :=
  (Text.splitAtByte? position line.toList).map fun (before, _) =>
    let word := Text.trimStart before
    if word.any Text.isBlank then { start := position, candidates := [] }
    else
      { start := Text.byteLength before - Text.byteLength word
        candidates := startingWith names word }

end Completion

end LineShell
