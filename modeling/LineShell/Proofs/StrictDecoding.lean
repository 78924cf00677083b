import LineShell.Proofs.Encoding

/-!
# Reading text strictly

The strict decoder is the inverse of the encoder: it reads a text from the bytes of that text, and
from no others. The bounds of the bytes behind a lead leave each character one form.
-/

namespace LineShell.Text.Utf8

/-! ## The one form of a character -/

theorem toNat_ofNat_of_valid {n : Nat} (h : n < 0xD800 ∨ 0xDFFF < n ∧ n < 0x110000) :
    (Char.ofNat n).toNat = n := by
  rw [Char.ofNat, dif_pos h]
  rfl

theorem tailByte_eq {n : Nat} {t : UInt8} (h : n % 64 + 128 = t.toNat) : tailByte n = t := by
  rw [tailByte, h, UInt8.ofNat_toNat]

theorem encodeChar_of_one {b : UInt8} (hb : b.toNat < 0x80) :
    String.utf8EncodeChar (Char.ofNat b.toNat) = [b] := by
  rw [encodeChar_eq, toNat_ofNat_of_valid (by omega), if_pos (by omega), UInt8.ofNat_toNat]

theorem encodeChar_of_two {b t : UInt8} (hb : 0xC2 ≤ b.toNat ∧ b.toNat < 0xE0)
    (ht : 0x80 ≤ t.toNat ∧ t.toNat ≤ 0xBF) :
    String.utf8EncodeChar (Char.ofNat (b.toNat % 32 * 64 + payload t)) = [b, t] := by
  unfold payload
  have hfirst : (b.toNat % 32 * 64 + t.toNat % 64) / 64 % 32 + 192 = b.toNat := by omega
  rw [encodeChar_eq, toNat_ofNat_of_valid (by omega), if_neg (by omega), if_pos (by omega), hfirst,
    UInt8.ofNat_toNat, tailByte_eq (t := t) (by omega)]

theorem encodeChar_of_three {b t u : UInt8} (hb : 0xE0 ≤ b.toNat ∧ b.toNat < 0xF0)
    (ht : 0x80 ≤ t.toNat ∧ t.toNat ≤ 0xBF) (hlow : b.toNat = 0xE0 → 0xA0 ≤ t.toNat)
    (hhigh : b.toNat = 0xED → t.toNat ≤ 0x9F) (hu : 0x80 ≤ u.toNat ∧ u.toNat ≤ 0xBF) :
    String.utf8EncodeChar (Char.ofNat ((b.toNat % 16 * 64 + payload t) * 64 + payload u)) =
      [b, t, u] := by
  unfold payload
  have hfirst : ((b.toNat % 16 * 64 + t.toNat % 64) * 64 + u.toNat % 64) / 4096 % 16 + 224 =
      b.toNat := by omega
  rw [encodeChar_eq, toNat_ofNat_of_valid (by omega), if_neg (by omega), if_neg (by omega),
    if_pos (by omega), hfirst, UInt8.ofNat_toNat, tailByte_eq (t := t) (by omega),
    tailByte_eq (t := u) (by omega)]

theorem encodeChar_of_four {b t u v : UInt8} (hb : 0xF0 ≤ b.toNat ∧ b.toNat ≤ 0xF4)
    (ht : 0x80 ≤ t.toNat ∧ t.toNat ≤ 0xBF) (hlow : b.toNat = 0xF0 → 0x90 ≤ t.toNat)
    (hhigh : b.toNat = 0xF4 → t.toNat ≤ 0x8F) (hu : 0x80 ≤ u.toNat ∧ u.toNat ≤ 0xBF)
    (hv : 0x80 ≤ v.toNat ∧ v.toNat ≤ 0xBF) :
    String.utf8EncodeChar (Char.ofNat (((b.toNat % 8 * 64 + payload t) * 64 + payload u) * 64 +
      payload v)) = [b, t, u, v] := by
  unfold payload
  have hfirst : (((b.toNat % 8 * 64 + t.toNat % 64) * 64 + u.toNat % 64) * 64 + v.toNat % 64) /
      262144 % 8 + 240 = b.toNat := by omega
  rw [encodeChar_eq, toNat_ofNat_of_valid (by omega), if_neg (by omega), if_neg (by omega),
    if_neg (by omega), hfirst, UInt8.ofNat_toNat, tailByte_eq (t := t) (by omega),
    tailByte_eq (t := u) (by omega), tailByte_eq (t := v) (by omega)]

/-- What was taken in some places, if every place was filled. -/
theorem within_cons {p : Bounds} {bounds : List Bounds} {bytes : List UInt8}
    (h : (within (p :: bounds) bytes).length = bounds.length + 1) :
    ∃ t rest, within (p :: bounds) bytes = t :: within bounds rest ∧
      (within bounds rest).length = bounds.length ∧ p.1.toNat ≤ t.toNat ∧ t.toNat ≤ p.2.toNat := by
  obtain ⟨t, rest, hl, hr, hw, hlen⟩ := within_cons_of_length_eq h
  exact ⟨t, rest, hw, hlen, hl, hr⟩

/-- What a byte that starts a character says about the character. -/
theorem Lead.of?_cases {b : UInt8} {lead : Lead} (h : Lead.of? b = some lead) :
    (b.toNat < 0x80 ∧ lead = ⟨b.toNat, []⟩) ∨
    ((0xC2 ≤ b.toNat ∧ b.toNat < 0xE0) ∧ lead = ⟨b.toNat % 32, [tailBounds]⟩) ∨
    (0xE0 ≤ b.toNat ∧ b.toNat < 0xF0) ∧ (∃ low high : UInt8,
      (0x80 ≤ low.toNat ∧ high.toNat ≤ 0xBF) ∧ (b.toNat = 0xE0 → 0xA0 ≤ low.toNat) ∧
      (b.toNat = 0xED → high.toNat ≤ 0x9F) ∧
      lead = ⟨b.toNat % 16, [(low, high), tailBounds]⟩) ∨
    (0xF0 ≤ b.toNat ∧ b.toNat ≤ 0xF4) ∧ ∃ low high : UInt8,
      (0x80 ≤ low.toNat ∧ high.toNat ≤ 0xBF) ∧ (b.toNat = 0xF0 → 0x90 ≤ low.toNat) ∧
      (b.toNat = 0xF4 → high.toNat ≤ 0x8F) ∧
      lead = ⟨b.toNat % 8, [(low, high), tailBounds, tailBounds]⟩ := by
  unfold Lead.of? at h
  simp only [UInt8.lt_iff_toNat_lt, ← UInt8.toNat_inj, UInt8.reduceToNat] at h
  repeat' split at h
  all_goals cases h
  · exact .inl ⟨by omega, rfl⟩
  · exact .inr (.inl ⟨by omega, rfl⟩)
  iterate 3
    · refine .inr (.inr (.inl ⟨by omega, _, _, ?_, ?_, ?_, rfl⟩)) <;> simp <;> omega
  iterate 3
    · refine .inr (.inr (.inr ⟨by omega, _, _, ?_, ?_, ?_, rfl⟩)) <;> simp <;> omega

/-- A lead and the bytes in its places are the bytes of the character that they are read as. -/
theorem Lead.encodeChar_of_unit {b : UInt8} {lead : Lead} (hb : Lead.of? b = some lead)
    {rest : List UInt8} {c : Char} (h : lead.unit (within lead.bounds rest) = some c) :
    String.utf8EncodeChar c = b :: within lead.bounds rest := by
  unfold Lead.unit at h
  split at h
  case isFalse => cases h
  case isTrue hl =>
  obtain rfl := Option.some.inj h
  obtain ⟨hone, rfl⟩ | ⟨htwo, rfl⟩ | ⟨hthree, low, high, hp, hlow, hhigh, rfl⟩ |
    ⟨hfour, low, high, hp, hlow, hhigh, rfl⟩ := Lead.of?_cases hb
  · simpa [within, codePoint] using encodeChar_of_one hone
  · obtain ⟨t, bytes, hw, -, ht⟩ := within_cons hl
    rw [hw]
    simpa [within, codePoint] using encodeChar_of_two htwo ht
  · obtain ⟨t, bytes, hw, hl, ht⟩ := within_cons hl
    obtain ⟨u, bytes, hw', -, hu⟩ := within_cons hl
    have ht : low.toNat ≤ t.toNat ∧ t.toNat ≤ high.toNat := ht
    rw [hw, hw']
    simpa [within, codePoint] using
      encodeChar_of_three hthree (by omega) (by omega) (by omega) hu
  · obtain ⟨t, bytes, hw, hl, ht⟩ := within_cons hl
    obtain ⟨u, bytes, hw', hl, hu⟩ := within_cons hl
    obtain ⟨v, bytes, hw'', -, hv⟩ := within_cons hl
    have ht : low.toNat ≤ t.toNat ∧ t.toNat ≤ high.toNat := ht
    rw [hw, hw', hw'']
    simpa [within, codePoint] using
      encodeChar_of_four hfour (by omega) (by omega) (by omega) hu hv

/-! ## Bytes that are characters only -/

theorem within_append_drop (bounds : List Bounds) (bytes : List UInt8) :
    within bounds bytes ++ bytes.drop (within bounds bytes).length = bytes := by
  fun_induction within bounds bytes with
  | case1 low high bounds b rest hb ih => simpa using ih
  | case2 => rfl
  | case3 => rfl

/-- Bytes that are read as characters only are the bytes of these characters. -/
theorem eq_encode_of_units {bytes : List UInt8} :
    ∀ {cs : List Char}, units bytes = cs.map some → bytes = encode cs := by
  fun_induction units bytes with
  | case1 =>
    intro cs h
    obtain rfl : cs = [] := by simpa using h.symm
    rfl
  | case2 b rest hb ih =>
    intro cs h
    cases cs <;> simp at h
  | case3 b rest lead hb tail =>
    rename_i ih
    intro cs h
    cases cs with
    | nil => simp at h
    | cons c cs =>
      rw [List.map_cons, List.cons.injEq] at h
      rw [encode_cons, ← ih h.2, Lead.encodeChar_of_unit hb h.1, List.cons_append,
        within_append_drop]

theorem eq_map_some_of_mapM {units : List (Option Char)} {cs : List Char}
    (h : units.mapM id = some cs) : units = cs.map some := by
  induction units generalizing cs with
  | nil => simp_all
  | cons unit units ih =>
    cases unit with
    | none => simp at h
    | some c =>
      cases hrest : units.mapM id with
      | none => simp [hrest] at h
      | some rest =>
        obtain rfl : c :: rest = cs := by simpa [hrest] using h
        rw [ih hrest, List.map_cons]

/-- The strict decoder reads a text from its bytes, and from nothing else. -/
theorem decode?_eq_some_iff {bytes : List UInt8} {cs : List Char} :
    decode? bytes = some cs ↔ bytes = encode cs := by
  constructor
  · intro h
    exact eq_encode_of_units (eq_map_some_of_mapM h)
  · rintro rfl
    exact decode?_encode cs

end LineShell.Text.Utf8
