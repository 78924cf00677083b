import LineShell.Proofs.Decoding
import LineShell.Text.Fit

/-!
# Reading back what was encoded

The bytes of a text are read as that text by the strict and the lenient decoder alike. So the bytes
of a text fall into lines where the text does.
-/

namespace LineShell.Text.Utf8

/-! ## One character -/

/-- Bytes that fill their places are taken from whatever stands behind them. -/
theorem within_append {bounds : List Bounds} {tail : List UInt8} (h : within bounds tail = tail)
    (hl : tail.length = bounds.length) (rest : List UInt8) :
    within bounds (tail ++ rest) = tail := by
  induction bounds generalizing tail with
  | nil =>
    obtain rfl : tail = [] := List.length_eq_zero_iff.1 hl
    simp [within]
  | cons p bounds ih =>
    obtain ⟨b, tail, rfl⟩ := List.exists_cons_of_length_eq_add_one hl
    rw [within] at h
    split at h
    · next hb =>
      rw [List.cons_append, within, if_pos hb, ih (List.cons.inj h).2 (by simpa using hl)]
    · cases h

theorem units_append {b : UInt8} {lead : Lead} {tail : List UInt8} (hb : Lead.of? b = some lead)
    (h : within lead.bounds tail = tail) (hl : tail.length = lead.bounds.length)
    (rest : List UInt8) :
    units (b :: (tail ++ rest)) = some (Char.ofNat (codePoint lead.bits tail)) :: units rest := by
  rw [units_cons_of_some hb, within_append h hl, List.drop_left, Lead.unit, if_pos hl]

theorem toNat_ofNat {n : Nat} (h : n < 256) : (UInt8.ofNat n).toNat = n := by
  simpa using h

/-- What a number below 256 announces as a byte. -/
theorem Lead.of?_ofNat {n : Nat} (h : n < 256) : Lead.of? (UInt8.ofNat n) =
  if n < 0x80 then some ⟨n, []⟩
  else if n < 0xC2 then none
  else if n < 0xE0 then some ⟨n % 32, [tailBounds]⟩
  else if n = 0xE0 then some ⟨n % 16, [(0xA0, 0xBF), tailBounds]⟩
  else if n = 0xED then some ⟨n % 16, [(0x80, 0x9F), tailBounds]⟩
  else if n < 0xF0 then some ⟨n % 16, [tailBounds, tailBounds]⟩
  else if n = 0xF0 then some ⟨n % 8, [(0x90, 0xBF), tailBounds, tailBounds]⟩
  else if n < 0xF4 then some ⟨n % 8, [tailBounds, tailBounds, tailBounds]⟩
  else if n = 0xF4 then some ⟨n % 8, [(0x80, 0x8F), tailBounds, tailBounds]⟩
  else none := by
  simp only [Lead.of?, UInt8.lt_iff_toNat_lt, ← UInt8.toNat_inj, toNat_ofNat h]
  rfl

theorem payload_ofNat {n : Nat} : payload (UInt8.ofNat (n % 64 + 128)) = n % 64 := by
  rw [payload, toNat_ofNat (by omega)]
  omega

/-- The byte of six payload bits. -/
def tailByte (n : Nat) : UInt8 := UInt8.ofNat (n % 64 + 128)

theorem within_tailByte {low high : UInt8} {bounds : List Bounds} {n : Nat} {tail : List UInt8}
    (h : low.toNat ≤ n % 64 + 128 ∧ n % 64 + 128 ≤ high.toNat) (ht : within bounds tail = tail) :
    within ((low, high) :: bounds) (tailByte n :: tail) = tailByte n :: tail := by
  have hb : (tailByte n).toNat = n % 64 + 128 := toNat_ofNat (by omega)
  rw [within, if_pos, ht]
  simpa [UInt8.le_iff_toNat_le, hb] using h

theorem within_tailBounds {bounds : List Bounds} {tail : List UInt8} (n : Nat)
    (ht : within bounds tail = tail) :
    within (tailBounds :: bounds) (tailByte n :: tail) = tailByte n :: tail :=
  within_tailByte (by simp; omega) ht

theorem Lead.of?_two {n : Nat} (h : 0x80 ≤ n) (h' : n < 0x800) :
    Lead.of? (UInt8.ofNat (n / 64 % 32 + 192)) = some ⟨n / 64, [tailBounds]⟩ := by
  rw [Lead.of?_ofNat (by omega)]
  iterate 2 rw [if_neg (by omega)]
  rw [if_pos (by omega)]
  congr 2
  omega

theorem Lead.of?_three {n : Nat} (h : 0x800 ≤ n) (h' : n < 0x10000)
    (hs : ¬ (0xD800 ≤ n ∧ n < 0xE000)) :
    ∃ low high, Lead.of? (UInt8.ofNat (n / 4096 % 16 + 224)) =
      some ⟨n / 4096, [(low, high), tailBounds]⟩ ∧
      low.toNat ≤ n / 64 % 64 + 128 ∧ n / 64 % 64 + 128 ≤ high.toNat := by
  have hbits : (n / 4096 % 16 + 224) % 16 = n / 4096 := by omega
  rw [Lead.of?_ofNat (by omega), hbits]
  iterate 3 rw [if_neg (by omega)]
  split
  · exact ⟨_, _, rfl, by simp; omega, by simp; omega⟩
  · split
    · exact ⟨_, _, rfl, by simp, by simp; omega⟩
    · rw [if_pos (by omega)]
      exact ⟨_, _, rfl, by simp, by simp; omega⟩

theorem Lead.of?_four {n : Nat} (h : 0x10000 ≤ n) (h' : n < 0x110000) :
    ∃ low high, Lead.of? (UInt8.ofNat (n / 262144 % 8 + 240)) =
      some ⟨n / 262144, [(low, high), tailBounds, tailBounds]⟩ ∧
      low.toNat ≤ n / 4096 % 64 + 128 ∧ n / 4096 % 64 + 128 ≤ high.toNat := by
  have hbits : (n / 262144 % 8 + 240) % 8 = n / 262144 := by omega
  rw [Lead.of?_ofNat (by omega), hbits]
  iterate 6 rw [if_neg (by omega)]
  split
  · exact ⟨_, _, rfl, by simp; omega, by simp; omega⟩
  · split
    · exact ⟨_, _, rfl, by simp, by simp; omega⟩
    · rw [if_pos (by omega)]
      exact ⟨_, _, rfl, by simp, by simp; omega⟩

theorem codePoint_tailByte (bits n : Nat) (tail : List UInt8) :
    codePoint bits (tailByte n :: tail) = codePoint (bits * 64 + n % 64) tail := by
  rw [codePoint, List.foldl_cons, tailByte, payload_ofNat]
  rfl

/-- The bytes of a character: its bits in groups of six from the last, after what announces them. -/
theorem encodeChar_eq (c : Char) :
    String.utf8EncodeChar c =
      if c.toNat ≤ 0x7F then [UInt8.ofNat c.toNat]
      else if c.toNat ≤ 0x7FF then
        [UInt8.ofNat (c.toNat / 64 % 32 + 192), tailByte c.toNat]
      else if c.toNat ≤ 0xFFFF then
        [UInt8.ofNat (c.toNat / 4096 % 16 + 224), tailByte (c.toNat / 64), tailByte c.toNat]
      else
        [UInt8.ofNat (c.toNat / 262144 % 8 + 240), tailByte (c.toNat / 4096),
          tailByte (c.toNat / 64), tailByte c.toNat] := rfl

/-- A character is read from its bytes, whatever stands behind them. -/
theorem units_encodeChar (c : Char) (rest : List UInt8) :
    units (String.utf8EncodeChar c ++ rest) = some c :: units rest := by
  have hv : c.toNat < 0xD800 ∨ 0xDFFF < c.toNat ∧ c.toNat < 0x110000 := c.valid
  have hread : ∀ {first : UInt8} {lead : Lead} {tail : List UInt8}, Lead.of? first = some lead →
      within lead.bounds tail = tail → tail.length = lead.bounds.length →
      codePoint lead.bits tail = c.toNat →
      units (first :: tail ++ rest) = some c :: units rest := by
    intro first lead tail hb h hl hcode
    rw [List.cons_append, units_append hb h hl, hcode, Char.ofNat_toNat]
  rw [encodeChar_eq]
  split
  · have hb : Lead.of? (UInt8.ofNat c.toNat) = some ⟨c.toNat, []⟩ := by
      rw [Lead.of?_ofNat (by omega), if_pos (by omega)]
    exact hread hb rfl rfl rfl
  split
  · refine hread (Lead.of?_two (by omega) (by omega)) (within_tailBounds _ rfl) rfl ?_
    rw [codePoint_tailByte]
    simp only [codePoint, List.foldl_nil]
    omega
  split
  · obtain ⟨low, high, hb, hfirst⟩ :=
      Lead.of?_three (n := c.toNat) (by omega) (by omega) (by omega)
    refine hread hb (within_tailByte hfirst (within_tailBounds _ rfl)) rfl ?_
    rw [codePoint_tailByte, codePoint_tailByte]
    simp only [codePoint, List.foldl_nil]
    omega
  · obtain ⟨low, high, hb, hfirst⟩ := Lead.of?_four (n := c.toNat) (by omega) (by omega)
    refine hread hb (within_tailByte hfirst (within_tailBounds _ (within_tailBounds _ rfl))) rfl ?_
    rw [codePoint_tailByte, codePoint_tailByte, codePoint_tailByte]
    simp only [codePoint, List.foldl_nil]
    omega

/-! ## Texts -/

@[simp] theorem encode_nil : encode [] = [] := rfl

theorem encode_cons (c : Char) (cs : List Char) :
    encode (c :: cs) = String.utf8EncodeChar c ++ encode cs := List.flatMap_cons

theorem encode_append (xs ys : List Char) : encode (xs ++ ys) = encode xs ++ encode ys :=
  List.flatMap_append

theorem encode_newline_cons (cs : List Char) : encode ('\n' :: cs) = newline :: encode cs := rfl

/-- Lengths in bytes are the lengths of what is encoded. -/
theorem length_encode (cs : List Char) : (encode cs).length = byteLength cs := by
  induction cs with
  | nil => rfl
  | cons c cs ih => rw [encode_cons, List.length_append, String.length_utf8EncodeChar, ih,
      byteLength_cons]

theorem units_encode (cs : List Char) : units (encode cs) = cs.map some := by
  induction cs with
  | nil => exact units_nil
  | cons c cs ih => rw [encode_cons, units_encodeChar, ih, List.map_cons]

/-- The strict decoder reads back what was encoded. -/
theorem decode?_encode (cs : List Char) : decode? (encode cs) = some cs := by
  rw [decode?, units_encode]
  induction cs with
  | nil => rfl
  | cons c cs ih => simp [List.mapM_cons, ih]

/-- So does the lenient one. -/
theorem decodeLossy_encode (cs : List Char) : decodeLossy (encode cs) = cs := by
  rw [decodeLossy, units_encode, List.map_map]
  exact List.map_id cs

/-! ## Lines -/

theorem newline_mem_encode {cs : List Char} : newline ∈ encode cs ↔ '\n' ∈ cs := by
  rw [← newline_mem_decodeLossy, decodeLossy_encode]

end LineShell.Text.Utf8
