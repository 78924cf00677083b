/-!
# Cutting a text to a number of bytes

Lengths are counted in UTF-8 bytes, cuts fall between characters. The cut text is the longest
beginning that fits.
-/

namespace LineShell.Text

def byteLength : List Char → Nat
  | [] => 0
  | c :: rest => c.utf8Size + byteLength rest

/-- The longest beginning of a text that takes at most `room` bytes. -/
def fitting : (room : Nat) → List Char → List Char
  | _, [] => []
  | room, c :: rest =>
    if c.utf8Size ≤ room then c :: fitting (room - c.utf8Size) rest else []

/-- The two parts of a text around a byte position; `none` past its end or inside a character. -/
def splitAtByte? : (position : Nat) → List Char → Option (List Char × List Char)
  | 0, cs => some ([], cs)
  | _ + 1, [] => none
  | position + 1, c :: rest =>
    if c.utf8Size ≤ position + 1 then
      (splitAtByte? (position + 1 - c.utf8Size) rest).map fun parts => (c :: parts.1, parts.2)
    else none

@[simp] theorem byteLength_nil : byteLength [] = 0 := rfl
@[simp] theorem byteLength_cons (c : Char) (cs : List Char) :
    byteLength (c :: cs) = c.utf8Size + byteLength cs := rfl

theorem byteLength_append (xs ys : List Char) :
    byteLength (xs ++ ys) = byteLength xs + byteLength ys := by
  induction xs with
  | nil => simp
  | cons c rest ih => simp [ih, Nat.add_assoc]

/-- What fits is a beginning of the text. -/
theorem fitting_prefix (room : Nat) (cs : List Char) : fitting room cs <+: cs := by
  fun_induction fitting room cs with
  | case1 => exact List.nil_prefix
  | case2 room c rest fits ih => exact (List.cons_prefix_cons).2 ⟨rfl, ih⟩
  | case3 => exact List.nil_prefix

/-- What fits takes no more than the room. -/
theorem byteLength_fitting_le (room : Nat) (cs : List Char) :
    byteLength (fitting room cs) ≤ room := by
  fun_induction fitting room cs with
  | case1 => simp
  | case2 room c rest fits ih =>
    simp only [byteLength_cons]
    omega
  | case3 => simp

/-- A text that fits is kept whole. -/
theorem fitting_of_byteLength_le {room : Nat} {cs : List Char} (h : byteLength cs ≤ room) :
    fitting room cs = cs := by
  fun_induction fitting room cs with
  | case1 => rfl
  | case2 room c rest fits ih =>
    simp only [byteLength_cons] at h
    rw [ih (by omega)]
  | case3 room c rest large =>
    simp only [byteLength_cons] at h
    omega

/-- The parts around a byte position make up the text, and the first ends at the position. -/
theorem splitAtByte?_eq_some {position : Nat} {cs before after : List Char}
    (h : splitAtByte? position cs = some (before, after)) :
    cs = before ++ after ∧ byteLength before = position := by
  fun_induction splitAtByte? position cs generalizing before after with
  | case1 cs =>
    cases h
    exact ⟨rfl, rfl⟩
  | case2 => cases h
  | case3 position c rest fits ih =>
    obtain ⟨⟨front, back⟩, split, parts⟩ := Option.map_eq_some_iff.1 h
    cases parts
    obtain ⟨rfl, length⟩ := ih split
    refine ⟨rfl, ?_⟩
    simp only [byteLength_cons, length]
    omega
  | case4 => cases h

/-- Between two parts of a text there is a byte position. -/
theorem splitAtByte?_append (before after : List Char) :
    splitAtByte? (byteLength before) (before ++ after) = some (before, after) := by
  induction before with
  | nil => cases after <;> rfl
  | cons c rest ih =>
    have positive := c.utf8Size_pos
    obtain ⟨n, size⟩ : ∃ n, byteLength (c :: rest) = n + 1 := by
      refine ⟨c.utf8Size + byteLength rest - 1, ?_⟩
      simp only [byteLength_cons]
      omega
    have left : n + 1 - c.utf8Size = byteLength rest := by
      simp only [byteLength_cons] at size
      omega
    have fits : c.utf8Size ≤ n + 1 := by
      simp only [byteLength_cons] at size
      omega
    rw [size]
    simp [splitAtByte?, fits, left, ih]

end LineShell.Text
