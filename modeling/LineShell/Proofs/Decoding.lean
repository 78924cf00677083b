import LineShell.Line.Chunk
import LineShell.Text.Utf8

/-!
# Lossy decoding

A byte that continues no character starts a unit, whatever bytes stand before it. So decoding cuts at
newlines as its input does, and newlines are the only bytes that it reads as newlines.
-/

namespace LineShell.Text.Utf8

/-! ## Units -/

@[simp] theorem units_nil : units [] = [] := by
  rw [units]

theorem units_cons_of_none {b : UInt8} (hb : Lead.of? b = none) (rest : List UInt8) :
    units (b :: rest) = none :: units rest := by
  rw [units, hb]

theorem units_cons_of_some {b : UInt8} {lead : Lead} (hb : Lead.of? b = some lead)
    (rest : List UInt8) :
    units (b :: rest) = lead.unit (within lead.bounds rest) ::
      units (rest.drop (within lead.bounds rest).length) := by
  rw [units, hb]

theorem within_length_le (bounds : List Bounds) (bytes : List UInt8) :
    (within bounds bytes).length ≤ bytes.length := by
  fun_induction within bounds bytes with
  | case1 low high bounds b rest hb ih =>
    simp only [List.length_cons]
    omega
  | case2 => simp
  | case3 => simp

/-- If a byte was taken in every place, the first kept the bounds of the first place. -/
theorem within_cons_of_length_eq {low high : UInt8} {bounds : List Bounds} {bytes : List UInt8}
    (h : (within ((low, high) :: bounds) bytes).length = ((low, high) :: bounds).length) :
    ∃ b rest, low ≤ b ∧ b ≤ high ∧
      within ((low, high) :: bounds) bytes = b :: within bounds rest ∧
      (within bounds rest).length = bounds.length := by
  cases bytes with
  | nil => simp [within] at h
  | cons b rest =>
    rw [within] at h ⊢
    split at h
    · next hb =>
      simp only [Bool.and_eq_true, decide_eq_true_eq] at hb
      exact ⟨b, rest, hb.1, hb.2, if_pos (by simpa using hb), by simpa using h⟩
    · simp at h

/-- A byte that no place admits ends what is taken. -/
theorem within_append_cons {bounds : List Bounds} {b : UInt8}
    (hb : ∀ p ∈ bounds, ¬ (p.1 ≤ b ∧ b ≤ p.2)) (xs ys : List UInt8) :
    within bounds (xs ++ b :: ys) = within bounds xs := by
  induction xs generalizing bounds with
  | nil =>
    cases bounds with
    | nil => simp [within]
    | cons p bounds =>
      have hp := hb p (by simp)
      simpa [within] using hp
  | cons x xs ih =>
    cases bounds with
    | nil => simp [within]
    | cons p bounds =>
      rw [List.cons_append, within, within, ih fun q hq => hb q (by simp [hq])]

/-! ## Leads -/

/-- The bytes after a lead continue a character. -/
theorem Lead.bounds_le {a : UInt8} {lead : Lead} (ha : Lead.of? a = some lead) :
    ∀ p ∈ lead.bounds, 0x80 ≤ p.1 ∧ p.2 ≤ 0xBF := by
  have hall : lead.bounds.all (fun p => decide (0x80 ≤ p.1 ∧ p.2 ≤ 0xBF)) = true := by
    unfold Lead.of? tailBounds at ha
    repeat' split at ha
    all_goals cases ha
    all_goals rfl
  simpa only [List.all_eq_true, decide_eq_true_eq] using hall

theorem Lead.within_append_cons {a b : UInt8} {lead : Lead} (ha : Lead.of? a = some lead)
    (hb : isTail b = false) (xs ys : List UInt8) :
    within lead.bounds (xs ++ b :: ys) = within lead.bounds xs := by
  apply Utf8.within_append_cons
  rintro p hp ⟨hl, hr⟩
  have hle := Lead.bounds_le ha p hp
  have htail : isTail b = true := by
    simpa [isTail] using ⟨UInt8.le_trans hle.1 hl, UInt8.le_trans hr hle.2⟩
  rw [hb] at htail
  cases htail

/-- An ASCII byte is a character by itself. -/
theorem Lead.of?_ascii {a : UInt8} (ha : a < 0x80) : Lead.of? a = some ⟨a.toNat, []⟩ := by
  rw [Lead.of?, if_pos ha]

/-- Any other lead asks for more bytes, and with the first of them its bits come to 2 at least, or
to 0x80 if it asks for no other. -/
theorem Lead.le_first {a : UInt8} {lead : Lead} (ha : Lead.of? a = some lead) (hm : ¬ a < 0x80) :
    ∃ low high bounds, lead.bounds = (low, high) :: bounds ∧
      ∀ b, low ≤ b → b ≤ high → 2 ≤ lead.bits * 64 + payload b ∧
        (bounds = [] → 0x80 ≤ lead.bits * 64 + payload b) := by
  rw [Lead.of?, if_neg hm] at ha
  repeat' split at ha
  all_goals cases ha
  all_goals
    refine ⟨_, _, _, rfl, fun b hl hr => ?_⟩
    simp only [UInt8.lt_iff_toNat_lt, UInt8.le_iff_toNat_le, ← UInt8.toNat_inj, payload] at *
    simp at *
    omega

theorem le_codePoint (bits : Nat) (tail : List UInt8) : bits ≤ codePoint bits tail := by
  induction tail generalizing bits with
  | nil => exact Nat.le_refl bits
  | cons b tail ih =>
    have h := ih (bits * 64 + payload b)
    simp only [codePoint, List.foldl_cons] at h ⊢
    omega

/-- More bytes than one never stand for an ASCII character. -/
theorem Lead.le_codePoint {a : UInt8} {lead : Lead} (ha : Lead.of? a = some lead)
    (hm : ¬ a < 0x80) {bytes : List UInt8}
    (h : (within lead.bounds bytes).length = lead.bounds.length) :
    0x80 ≤ codePoint lead.bits (within lead.bounds bytes) := by
  obtain ⟨low, high, bounds, hbounds, hfirst⟩ := Lead.le_first ha hm
  rw [hbounds] at h ⊢
  obtain ⟨b, rest, hl, hr, hw, hlength⟩ := within_cons_of_length_eq h
  obtain ⟨htwo, hlast⟩ := hfirst b hl hr
  rw [hw]
  cases htail : within bounds rest with
  | nil =>
    rw [htail] at hlength
    simpa [codePoint] using hlast (List.length_eq_zero_iff.1 hlength.symm)
  | cons c tail =>
    have hgrow := Utf8.le_codePoint ((lead.bits * 64 + payload b) * 64 + payload c) tail
    simp only [codePoint, List.foldl_cons] at hgrow ⊢
    omega

theorem ofNat_ne_newline {n : Nat} (h : n ≠ 10) : Char.ofNat n ≠ '\n' := by
  by_cases hv : n.isValidChar
  · rw [Char.ofNat, dif_pos hv]
    intro he
    exact h (congrArg Char.toNat he)
  · rw [Char.ofNat, dif_neg hv]
    decide

/-! ## Cuts -/

/-- A byte that continues no character starts a unit, whatever stands before it. -/
theorem units_append_cons {b : UInt8} (hb : isTail b = false) (xs ys : List UInt8) :
    units (xs ++ b :: ys) = units xs ++ units (b :: ys) := by
  fun_induction units xs with
  | case1 => rfl
  | case2 a rest ha ih => rw [List.cons_append, units_cons_of_none ha, ih, List.cons_append]
  | case3 a rest lead ha tail ih =>
    have hle := within_length_le lead.bounds rest
    rw [List.cons_append, units_cons_of_some ha, Lead.within_append_cons ha hb,
      List.drop_append_of_le_length hle, ih, List.cons_append]

theorem units_newline (ys : List UInt8) : units (newline :: ys) = some '\n' :: units ys := by
  rw [units_cons_of_some (Lead.of?_ascii (by decide))]
  rfl

@[simp] theorem decodeLossy_nil : decodeLossy [] = [] := by
  simp [decodeLossy]

/-- Decoding cuts after a newline as its input does. -/
theorem decodeLossy_append_newline (xs ys : List UInt8) :
    decodeLossy (xs ++ newline :: ys) = decodeLossy xs ++ '\n' :: decodeLossy ys := by
  simp only [decodeLossy]
  rw [units_append_cons (by decide), units_newline, List.map_append, List.map_cons]
  rfl

/-! ## Newlines and lengths -/

theorem Lead.unit_ne_newline {a : UInt8} {lead : Lead} (ha : Lead.of? a = some lead)
    (hne : a ≠ newline) (bytes : List UInt8) :
    lead.unit (within lead.bounds bytes) ≠ some '\n' := by
  unfold Lead.unit
  split
  · next h =>
    by_cases hm : a < 0x80
    · rw [Lead.of?_ascii hm] at ha
      cases ha
      have hn : a.toNat ≠ 10 := fun he => hne (UInt8.toNat_inj.1 he)
      simpa [within, codePoint] using ofNat_ne_newline hn
    · have hle := Lead.le_codePoint ha hm h
      simpa using ofNat_ne_newline (by omega)
  · simp

theorem newline_not_mem_units {bytes : List UInt8} (h : newline ∉ bytes) :
    some '\n' ∉ units bytes := by
  fun_induction units bytes with
  | case1 => simp
  | case2 a rest ha ih =>
    simp only [List.mem_cons, not_or] at h ⊢
    exact ⟨by simp, ih h.2⟩
  | case3 a rest lead ha tail ih =>
    simp only [List.mem_cons, not_or] at h ⊢
    exact ⟨(Lead.unit_ne_newline ha (Ne.symm h.1) rest).symm,
      ih fun hm => h.2 (List.mem_of_mem_drop hm)⟩

/-- A newline is read where there is one, and nowhere else. -/
theorem newline_mem_decodeLossy {bytes : List UInt8} :
    '\n' ∈ decodeLossy bytes ↔ newline ∈ bytes := by
  constructor
  · intro h
    obtain ⟨unit, hu, hc⟩ := List.mem_map.1 h
    cases unit with
    | none => exact absurd hc (by decide)
    | some c =>
      obtain rfl : c = '\n' := hc
      exact Classical.byContradiction fun hn => newline_not_mem_units hn hu
  · intro h
    obtain ⟨xs, ys, rfl⟩ := List.append_of_mem h
    simp [decodeLossy_append_newline]

theorem length_units_le (bytes : List UInt8) : (units bytes).length ≤ bytes.length := by
  fun_induction units bytes with
  | case1 => exact Nat.le_refl _
  | case2 a rest ha ih =>
    simp only [List.length_cons]
    omega
  | case3 a rest lead ha tail ih =>
    simp only [List.length_cons, List.length_drop] at ih ⊢
    omega

theorem length_decodeLossy_le (bytes : List UInt8) : (decodeLossy bytes).length ≤ bytes.length := by
  simpa [decodeLossy] using length_units_le bytes

end LineShell.Text.Utf8
