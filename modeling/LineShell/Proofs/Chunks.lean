import LineShell.Line.Chunk

/-!
# Cutting input into chunks

A cut of some bytes is greedy when no chunk could be longer: each ends with its only newline or is
as long as it may be, the last one aside. There is one greedy cut of any bytes, and taking chunk
after chunk gives it.
-/

namespace LineShell

/-! ## One chunk -/

/-- A chunk that ends where it must is taken from whatever stands behind it. -/
theorem takeChunk_append_eq {limit : Nat} {chunk left : List UInt8} (hle : chunk.length ≤ limit)
    (hnl : newline ∉ chunk.dropLast)
    (hf : left ≠ [] → chunk.getLast? = some newline ∨ chunk.length = limit) :
    takeChunk limit (chunk ++ left) = (chunk, left) := by
  induction chunk generalizing limit with
  | nil =>
    cases left with
    | nil => simp [takeChunk]
    | cons b left =>
      have hl : limit = 0 := by simpa [eq_comm] using hf (by simp)
      subst hl
      simp [takeChunk]
  | cons b chunk ih =>
    obtain ⟨n, rfl⟩ : ∃ n, limit = n + 1 := ⟨limit - 1, by simp at hle; omega⟩
    rw [List.cons_append, takeChunk]
    by_cases hb : b = newline
    · -- The newline is the last byte, so the chunk is over.
      have hc : chunk = [] := by
        cases chunk with
        | nil => rfl
        | cons c chunk => simp [hb] at hnl
      subst hc
      simp [hb]
    · have hrest : takeChunk n (chunk ++ left) = (chunk, left) := by
        apply ih
        · simpa using hle
        · cases chunk with
          | nil => simp
          | cons c chunk =>
            simp only [List.dropLast_cons_cons, List.mem_cons, not_or] at hnl
            exact hnl.2
        · intro hleft
          cases chunk with
          | nil => simpa [hb, eq_comm] using hf hleft
          | cons c chunk => simpa using hf hleft
      rw [if_neg hb, hrest]

/-- A newline is the last byte of its chunk. -/
theorem takeChunk_newline_last (limit : Nat) (bytes : List UInt8) :
    newline ∉ (takeChunk limit bytes).1.dropLast := by
  fun_induction takeChunk limit bytes with
  | case1 => simp
  | case2 => simp
  | case3 => simp
  | case4 limit b rest hb chunk left h ih =>
    rw [h] at ih
    cases chunk with
    | nil => simp
    | cons c chunk =>
      simp only [List.dropLast_cons_cons, List.mem_cons, not_or]
      exact ⟨Ne.symm hb, ih⟩

/-- A chunk before others is as long as it may be. -/
theorem takeChunk_filled {limit : Nat} {bytes : List UInt8} (h : (takeChunk limit bytes).2 ≠ []) :
    (takeChunk limit bytes).1.getLast? = some newline ∨
      (takeChunk limit bytes).1.length = limit := by
  fun_induction takeChunk limit bytes with
  | case1 => exact absurd rfl h
  | case2 => exact .inr rfl
  | case3 => exact .inl rfl
  | case4 limit b rest hb chunk left hc ih =>
    rw [hc] at ih
    rcases ih h with hlast | hlength
    · left
      simp only at hlast
      rw [List.getLast?_cons, hlast]
      rfl
    · right
      simpa using hlength

/-! ## All chunks -/

/-- A greedy cut of some bytes. -/
structure IsGreedyCut (limit : Nat) (bytes : List UInt8) (pieces : List (List UInt8)) : Prop where
  whole : pieces.flatten = bytes
  nonempty : ∀ piece ∈ pieces, piece ≠ []
  bounded : ∀ piece ∈ pieces, piece.length ≤ limit
  newline_last : ∀ piece ∈ pieces, newline ∉ piece.dropLast
  filled : ∀ piece ∈ pieces.dropLast, piece.getLast? = some newline ∨ piece.length = limit

/-- Chunk after chunk, until none has a byte. -/
def chunks (limit : Nat) (bytes : List UInt8) : List (List UInt8) :=
  if _h : (takeChunk limit bytes).1 = [] then []
  else (takeChunk limit bytes).1 :: chunks limit (takeChunk limit bytes).2
termination_by bytes.length
decreasing_by
  have hwhole := congrArg List.length (takeChunk_append limit bytes)
  have hpos := List.length_pos_iff.2 _h
  rw [List.length_append] at hwhole
  omega

theorem chunks_nil (limit : Nat) : chunks limit [] = [] := by
  rw [chunks]
  simp [takeChunk]

theorem chunks_of_takeChunk {limit : Nat} {bytes chunk left : List UInt8}
    (h : takeChunk limit bytes = (chunk, left)) (hne : chunk ≠ []) :
    chunks limit bytes = chunk :: chunks limit left := by
  rw [chunks]
  simp [h, hne]

/-- There is no more than a chunk for each byte. -/
theorem length_chunks_le (limit : Nat) (bytes : List UInt8) :
    (chunks limit bytes).length ≤ bytes.length := by
  fun_induction chunks limit bytes with
  | case1 => simp
  | case2 bytes hne ih =>
    have hwhole := congrArg List.length (takeChunk_append limit bytes)
    have hpos := List.length_pos_iff.2 hne
    simp only [List.length_append, List.length_cons] at hwhole ⊢
    omega

theorem isGreedyCut_chunks {limit : Nat} (hl : 0 < limit) (bytes : List UInt8) :
    IsGreedyCut limit bytes (chunks limit bytes) := by
  fun_induction chunks limit bytes with
  | case1 bytes h =>
    have hb := takeChunk_eq_nil h hl
    subst hb
    exact ⟨rfl, by simp, by simp, by simp, by simp⟩
  | case2 bytes hne ih =>
    refine ⟨?_, ?_, ?_, ?_, ?_⟩
    · rw [List.flatten_cons, ih.whole, takeChunk_append]
    · simpa [hne] using ih.nonempty
    · simpa [takeChunk_length_le] using ih.bounded
    · simpa [takeChunk_newline_last] using ih.newline_last
    · cases hrest : chunks limit (takeChunk limit bytes).2 with
      | nil => simp
      | cons next rest =>
        have hleft : (takeChunk limit bytes).2 ≠ [] := by
          intro hnil
          simp [hnil, chunks_nil] at hrest
        intro piece hp
        rw [List.dropLast_cons_cons] at hp
        rcases List.mem_cons.1 hp with rfl | hp
        · exact takeChunk_filled hleft
        · exact ih.filled piece (by rwa [hrest])

/-- The first piece of a greedy cut is the first chunk. -/
theorem IsGreedyCut.takeChunk_eq {limit : Nat} {bytes piece : List UInt8}
    {pieces : List (List UInt8)} (h : IsGreedyCut limit bytes (piece :: pieces)) :
    takeChunk limit bytes = (piece, pieces.flatten) := by
  rw [← h.whole, List.flatten_cons]
  apply takeChunk_append_eq (h.bounded piece (by simp)) (h.newline_last piece (by simp))
  intro hne
  apply h.filled piece
  cases pieces with
  | nil => simp at hne
  | cons next rest => simp

theorem IsGreedyCut.tail {limit : Nat} {bytes piece : List UInt8} {pieces : List (List UInt8)}
    (h : IsGreedyCut limit bytes (piece :: pieces)) :
    IsGreedyCut limit pieces.flatten pieces where
  whole := rfl
  nonempty p hp := h.nonempty p (by simp [hp])
  bounded p hp := h.bounded p (by simp [hp])
  newline_last p hp := h.newline_last p (by simp [hp])
  filled p hp := by
    apply h.filled p
    cases pieces with
    | nil => simp at hp
    | cons next rest =>
      rw [List.dropLast_cons_cons]
      exact List.mem_cons_of_mem _ hp

/-- There is no other greedy cut. -/
theorem IsGreedyCut.eq_chunks {limit : Nat} {bytes : List UInt8} {pieces : List (List UInt8)}
    (h : IsGreedyCut limit bytes pieces) : pieces = chunks limit bytes := by
  induction pieces generalizing bytes with
  | nil =>
    rw [← h.whole]
    exact (chunks_nil limit).symm
  | cons piece pieces ih =>
    rw [chunks_of_takeChunk h.takeChunk_eq (h.nonempty piece (by simp)), ← ih h.tail]

theorem chunks_tail {limit : Nat} (hl : 0 < limit) (bytes : List UInt8) :
    chunks limit (chunks limit bytes).tail.flatten = (chunks limit bytes).tail := by
  have hcut := isGreedyCut_chunks hl bytes
  cases hc : chunks limit bytes with
  | nil => exact chunks_nil limit
  | cons piece pieces =>
    rw [hc] at hcut
    exact hcut.tail.eq_chunks.symm

/-- The next chunk is the first of all, or empty if there is none. -/
theorem takeChunk_eq_chunks {limit : Nat} (hl : 0 < limit) (bytes : List UInt8) :
    takeChunk limit bytes =
      ((chunks limit bytes).head?.getD [], (chunks limit bytes).tail.flatten) := by
  have hcut := isGreedyCut_chunks hl bytes
  cases hc : chunks limit bytes with
  | nil =>
    have hb : bytes = [] := by simpa [hc, eq_comm] using hcut.whole
    subst hb
    simp [takeChunk]
  | cons piece pieces =>
    rw [hc] at hcut
    exact hcut.takeChunk_eq

/-! ## Cuts behind a newline -/

/-- Of bytes that end with a newline, the last piece is as long as it may be too. -/
theorem IsGreedyCut.filled_of_newline {limit : Nat} {bytes : List UInt8}
    {pieces : List (List UInt8)} (h : IsGreedyCut limit bytes pieces)
    (hb : bytes.getLast? = some newline) :
    ∀ piece ∈ pieces, piece.getLast? = some newline ∨ piece.length = limit := by
  intro piece hp
  rcases List.eq_nil_or_concat pieces with rfl | ⟨before, last, rfl⟩
  · simp at hp
  · rw [List.concat_eq_append] at *
    rcases List.mem_append.1 hp with hp | hp
    · exact h.filled piece (by simpa using hp)
    · obtain rfl := List.mem_singleton.1 hp
      have hne : piece ≠ [] := h.nonempty piece (by simp)
      rw [← h.whole, List.flatten_append, List.flatten_singleton, List.getLast?_append,
        List.getLast?_eq_some_getLast hne, Option.some_or] at hb
      rw [List.getLast?_eq_some_getLast hne]
      exact .inl hb

/-- Behind a newline the cut begins anew. -/
theorem chunks_append {limit : Nat} (hl : 0 < limit) {a : List UInt8}
    (ha : a = [] ∨ a.getLast? = some newline) (b : List UInt8) :
    chunks limit (a ++ b) = chunks limit a ++ chunks limit b := by
  have hcut := isGreedyCut_chunks hl a
  have hcut' := isGreedyCut_chunks hl b
  rcases ha with rfl | ha
  · rw [chunks_nil, List.nil_append, List.nil_append]
  refine (IsGreedyCut.eq_chunks ⟨?_, ?_, ?_, ?_, ?_⟩).symm
  · rw [List.flatten_append, hcut.whole, hcut'.whole]
  · exact fun piece hp => (List.mem_append.1 hp).elim (hcut.nonempty piece) (hcut'.nonempty piece)
  · exact fun piece hp => (List.mem_append.1 hp).elim (hcut.bounded piece) (hcut'.bounded piece)
  · exact fun piece hp =>
      (List.mem_append.1 hp).elim (hcut.newline_last piece) (hcut'.newline_last piece)
  · intro piece hp
    rw [List.dropLast_append] at hp
    split at hp
    · exact hcut.filled piece hp
    · exact (List.mem_append.1 hp).elim (hcut.filled_of_newline ha piece) (hcut'.filled piece)

/-! ## Chunks of a line -/

/-- A line with room for its newline is one chunk. -/
theorem chunks_line {limit : Nat} {content : List UInt8} (hnl : newline ∉ content)
    (hlt : content.length < limit) (rest : List UInt8) :
    chunks limit (content ++ newline :: rest) = (content ++ [newline]) :: chunks limit rest := by
  have hc : takeChunk limit ((content ++ [newline]) ++ rest) = (content ++ [newline], rest) := by
    apply takeChunk_append_eq
    · rw [List.length_append, List.length_singleton]
      exact hlt
    · simpa using hnl
    · intro _
      left
      simp
  rw [List.append_assoc] at hc
  exact chunks_of_takeChunk hc (by simp)

/-- The newline after a line that is as long as a chunk may be is a chunk of its own. -/
theorem chunks_full_line {limit : Nat} {content : List UInt8} (hnl : newline ∉ content)
    (heq : content.length = limit) (hl : 0 < limit) (rest : List UInt8) :
    chunks limit (content ++ newline :: rest) = content :: [newline] :: chunks limit rest := by
  have hc : takeChunk limit (content ++ newline :: rest) = (content, newline :: rest) := by
    apply takeChunk_append_eq (Nat.le_of_eq heq)
    · exact fun hm => hnl (List.dropLast_subset _ hm)
    · exact fun _ => .inr heq
  have hne : content ≠ [] := by
    rw [← List.length_pos_iff, heq]
    exact hl
  rw [chunks_of_takeChunk hc hne]
  congr 1
  exact chunks_line List.not_mem_nil hl rest

/-- A last line without a newline is one chunk, if it is anything. -/
theorem chunks_last_line {limit : Nat} {content : List UInt8} (hnl : newline ∉ content)
    (hle : content.length ≤ limit) (hne : content ≠ []) : chunks limit content = [content] := by
  have hc : takeChunk limit (content ++ []) = (content, []) := by
    apply takeChunk_append_eq hle
    · exact fun hm => hnl (List.dropLast_subset _ hm)
    · exact fun hm => absurd rfl hm
  rw [List.append_nil] at hc
  rw [chunks_of_takeChunk hc hne, chunks_nil]

end LineShell
