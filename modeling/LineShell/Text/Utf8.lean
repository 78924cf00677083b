/-!
# UTF-8

Bytes are read as a sequence of units: a well-formed character, or the longest start of one that
goes wrong. A strict reader refuses a text with a unit that went wrong, a lenient one puts U+FFFD in
its place.
-/

namespace LineShell.Text.Utf8

def encode (cs : List Char) : List UInt8 := cs.flatMap String.utf8EncodeChar

def isTail (b : UInt8) : Bool := 0x80 ≤ b && b ≤ 0xBF

/-- The six payload bits of a byte that continues a character. -/
def payload (b : UInt8) : Nat := b.toNat % 64

/-- The least and the greatest byte in some place. -/
abbrev Bounds := UInt8 × UInt8

/-- The bounds of any byte that continues a character. -/
def tailBounds : Bounds := (0x80, 0xBF)

/-- What a byte announces when it starts a character: the bits that it gives, and bounds for each
byte to follow. The bounds of the second byte shut out overlong forms, surrogates and code points
above U+10FFFF. -/
structure Lead where
  bits : Nat
  bounds : List Bounds
  deriving DecidableEq, Repr

/-- What a byte announces; `none` if it starts no character. -/
def Lead.of? (b : UInt8) : Option Lead :=
  if b < 0x80 then some ⟨b.toNat, []⟩
  else if b < 0xC2 then none
  else if b < 0xE0 then some ⟨b.toNat % 32, [tailBounds]⟩
  else if b = 0xE0 then some ⟨b.toNat % 16, [(0xA0, 0xBF), tailBounds]⟩
  else if b = 0xED then some ⟨b.toNat % 16, [(0x80, 0x9F), tailBounds]⟩
  else if b < 0xF0 then some ⟨b.toNat % 16, [tailBounds, tailBounds]⟩
  else if b = 0xF0 then some ⟨b.toNat % 8, [(0x90, 0xBF), tailBounds, tailBounds]⟩
  else if b < 0xF4 then some ⟨b.toNat % 8, [tailBounds, tailBounds, tailBounds]⟩
  else if b = 0xF4 then some ⟨b.toNat % 8, [(0x80, 0x8F), tailBounds, tailBounds]⟩
  else none

/-- The first bytes of some that keep the bounds of their places. -/
def within : List Bounds → List UInt8 → List UInt8
  | (low, high) :: bounds, b :: rest =>
    if low ≤ b && b ≤ high then b :: within bounds rest else []
  | _, _ => []

/-- The code point of the bits of a lead and the payloads that follow it. -/
def codePoint (bits : Nat) (tail : List UInt8) : Nat :=
  tail.foldl (fun sofar b => sofar * 64 + payload b) bits

/-- The character of a lead and the bytes that follow it; `none` if there are too few. -/
def Lead.unit (lead : Lead) (tail : List UInt8) : Option Char :=
  if tail.length = lead.bounds.length then some (Char.ofNat (codePoint lead.bits tail)) else none

/-- The units of a byte string; `none` stands for one that went wrong. -/
def units : List UInt8 → List (Option Char)
  | [] => []
  | b :: rest =>
    match Lead.of? b with
    | none => none :: units rest
    | some lead =>
      let tail := within lead.bounds rest
      lead.unit tail :: units (rest.drop tail.length)
termination_by bytes => bytes.length
decreasing_by
  · simp
  · simp only [List.length_drop, List.length_cons]
    omega

/-- The character that stands for a unit that went wrong. -/
def replacement : Char := '\uFFFD'

/-- The text of any bytes, each unit that went wrong replaced. -/
def decodeLossy (bytes : List UInt8) : List Char :=
  (units bytes).map fun unit => unit.getD replacement

/-- The text of well-formed bytes. -/
def decode? (bytes : List UInt8) : Option (List Char) := (units bytes).mapM id

end LineShell.Text.Utf8
