/-!
# Words

A separator is a property of characters. Cutting a text at each separator leaves pieces, some of
them empty; its words are the pieces that are not.
-/

namespace LineShell.Text

/-- The longest runs of characters that are no separators, in order. -/
def words (separates : Char → Bool) (cs : List Char) : List (List Char) :=
  (cs.splitOnP separates).filter fun piece => !piece.isEmpty

end LineShell.Text
