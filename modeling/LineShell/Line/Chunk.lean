/-!
# Chunks

Input comes in chunks. A chunk ends with the first newline, or when it has as many bytes as it may
have, or where the input ends.
-/

namespace LineShell

def newline : UInt8 := 10

/-- The first chunk of at most `limit` bytes, and what is left. -/
def takeChunk : (limit : Nat) → List UInt8 → List UInt8 × List UInt8
  | _, [] => ([], [])
  | 0, bytes => ([], bytes)
  | limit + 1, b :: rest =>
    if b = newline then ([b], rest)
    else
      let (chunk, left) := takeChunk limit rest
      (b :: chunk, left)

/-- A chunk holds all that it may: it ends with a newline or has `limit` bytes. -/
def isFilled (limit : Nat) (chunk : List UInt8) : Bool :=
  chunk.getLast? = some newline || chunk.length = limit

/-- The bytes of a chunk, given the bytes of a line with its end mark. At least one byte is read. -/
def chunkLimit (maxLine : Nat) : Nat := max (maxLine - 1) 1

/-- A chunk and what is left make up the input. -/
theorem takeChunk_append (limit : Nat) (bytes : List UInt8) :
    (takeChunk limit bytes).1 ++ (takeChunk limit bytes).2 = bytes := by
  fun_induction takeChunk limit bytes with
  | case1 => rfl
  | case2 => rfl
  | case3 => rfl
  | case4 limit b rest hb chunk left h ih => simpa [h] using ih

/-- A chunk is no longer than it may be. -/
theorem takeChunk_length_le (limit : Nat) (bytes : List UInt8) :
    (takeChunk limit bytes).1.length ≤ limit := by
  fun_induction takeChunk limit bytes with
  | case1 => simp
  | case2 => simp
  | case3 => simp
  | case4 limit b rest hb chunk left h ih => simp [h] at ih; simp; omega

/-- A chunk that may have bytes is empty only at the end of the input. -/
theorem takeChunk_eq_nil {limit : Nat} {bytes : List UInt8} (h : (takeChunk limit bytes).1 = [])
    (positive : 0 < limit) : bytes = [] := by
  fun_cases takeChunk limit bytes with
  | case1 => rfl
  | case2 => omega
  | case3 => simp_all [takeChunk]
  | case4 => simp_all [takeChunk]

theorem chunkLimit_pos (maxLine : Nat) : 0 < chunkLimit maxLine := by
  unfold chunkLimit
  omega

end LineShell
