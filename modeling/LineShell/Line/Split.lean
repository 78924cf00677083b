import LineShell.Text.Blank
import LineShell.Text.Words

/-!
# Split modes

A line falls into words at plain spaces only, or at any blank.
-/

namespace LineShell

/-- What separates the words of a line. -/
inductive SplitMode where
  | space
  | whitespace
  deriving DecidableEq, Repr

namespace SplitMode

def separates : SplitMode → Char → Bool
  | .space, c => c == ' '
  | .whitespace, c => Text.isBlank c

def name : SplitMode → String
  | .space => "space"
  | .whitespace => "whitespace"

def ofName? : String → Option SplitMode
  | "space" => some .space
  | "whitespace" => some .whitespace
  | _ => none

@[simp] theorem ofName?_name (mode : SplitMode) : ofName? mode.name = some mode := by
  cases mode <;> rfl

/-- Either mode separates words at a space. -/
@[simp] theorem separates_space (mode : SplitMode) : mode.separates ' ' = true := by
  cases mode <;> rfl

/-- Whatever separates words is blank. -/
theorem isBlank_of_separates {mode : SplitMode} {c : Char} (h : mode.separates c = true) :
    Text.isBlank c = true := by
  cases mode with
  | space => rw [eq_of_beq h]; rfl
  | whitespace => exact h

end SplitMode

end LineShell
