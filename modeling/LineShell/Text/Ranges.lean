/-!
# Sets of characters as ranges

A Unicode property is a short list of code point ranges. This module says when a character is in one.
-/

namespace LineShell.Text

/-- Closed ranges of code points. -/
abbrev CharRanges := Array (Nat × Nat)

def CharRanges.contains (ranges : CharRanges) (c : Char) : Bool :=
  ranges.any fun range => range.1 ≤ c.toNat && c.toNat ≤ range.2

end LineShell.Text
