import LineShell.Proofs.Encoding

/-!
# The order of texts and of their bytes

Texts are ordered by their characters, and encoding keeps that order: where two texts differ first,
the smaller character has the smaller byte at the first place where its bytes differ.
-/

namespace LineShell.Text.Utf8

theorem toNat_tailByte (n : Nat) : (tailByte n).toNat = n % 64 + 128 := toNat_ofNat (by omega)

/-- The bytes of a smaller character come first, whatever stands behind either. -/
theorem encodeChar_append_lt {c d : Char} (h : c < d) (xs ys : List UInt8) :
    String.utf8EncodeChar c ++ xs < String.utf8EncodeChar d ++ ys := by
  have hlt : c.toNat < d.toNat := h
  have hd : d.toNat < 0x110000 := by
    rcases d.valid with hv | hv
    · exact Nat.lt_trans hv (by decide)
    · exact hv.2
  rw [encodeChar_eq, encodeChar_eq]
  generalize c.toNat = m, d.toNat = n at *
  generalize hp : (xs < ys) = p
  repeat' split
  all_goals
    simp only [List.cons_append, List.nil_append, List.cons_lt_cons_iff, UInt8.lt_iff_toNat_lt,
      ← UInt8.toNat_inj, toNat_tailByte, UInt8.toNat_ofNat', hp]
  all_goals try omega
  -- Four bytes each: the three groups of six bits decide one after the other.
  have hm : m / 262144 = m / 4096 / 64 := by omega
  have hn : n / 262144 = n / 4096 / 64 := by omega
  have hsmall : n / 4096 / 64 < 8 := by omega
  have hle : m / 4096 / 64 ≤ n / 4096 / 64 := by omega
  have hlast : m / 64 < n / 64 ∨ m / 64 = n / 64 ∧ m % 64 < n % 64 := by omega
  have hmiddle : m / 4096 < n / 4096 ∨ m / 4096 = n / 4096 ∧ m / 64 % 64 < n / 64 % 64 ∨
      m / 4096 = n / 4096 ∧ m / 64 = n / 64 := by omega
  rw [hm, hn]
  generalize m / 4096 = a, n / 4096 = b at *
  omega

/-- The bytes of a smaller text come first. -/
theorem encode_lt_encode {xs ys : List Char} (h : xs < ys) : encode xs < encode ys := by
  induction xs generalizing ys with
  | nil =>
    cases ys with
    | nil => exact absurd h (List.lt_irrefl [])
    | cons d ys =>
      rw [encode_nil, encode_cons]
      cases hd : String.utf8EncodeChar d with
      | nil =>
        have hlength := String.length_utf8EncodeChar d
        rw [hd] at hlength
        exact absurd hlength (Nat.ne_of_lt d.utf8Size_pos)
      | cons b tail => exact List.nil_lt_cons _ _
  | cons c xs ih =>
    cases ys with
    | nil => exact absurd h (List.not_lt_nil _)
    | cons d ys =>
      rw [encode_cons, encode_cons]
      obtain hlt | ⟨rfl, hrest⟩ := List.cons_lt_cons_iff.1 h
      · exact encodeChar_append_lt hlt (encode xs) (encode ys)
      · exact List.append_left_lt (ih hrest)

end LineShell.Text.Utf8
