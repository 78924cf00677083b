import LineShell.Text.ClusterTables
import LineShell.Text.Unprintable

/-!
# Quoted texts

A text that is shown inside a message stands between double quotes. Quotes, backslashes and the
usual controls are escaped by a letter; characters without a glyph of their own, and marks that would
join the character before them, by their code point. The two halfwidth sound marks join too, but as
letters they have a glyph and stay.
-/

namespace LineShell.Text

def hexadecimal (n : Nat) : List Char := Nat.toDigits 16 n

/-- Whether a character is a mark that would join the character before it and has no place alone. -/
def isJoiningMark (c : Char) : Bool :=
  isGraphemeExtend c && c != '\uFF9E' && c != '\uFF9F'

def escape (c : Char) : List Char :=
  if c = '\x00' then ['\\', '0']
  else if c = '\t' then ['\\', 't']
  else if c = '\n' then ['\\', 'n']
  else if c = '\r' then ['\\', 'r']
  else if c = '"' then ['\\', '"']
  else if c = '\\' then ['\\', '\\']
  else if isJoiningMark c || isUnprintable c then
    ['\\', 'u', '\x7b'] ++ hexadecimal c.toNat ++ ['\x7d']
  else [c]

def quoted (text : String) : String :=
  String.ofList ('"' :: text.toList.flatMap escape ++ ['"'])

end LineShell.Text
