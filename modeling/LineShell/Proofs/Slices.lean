import LineShell.Proofs.Pieces

/-!
# Byte positions and slices

A text may be cut at a byte position where no character is cut: its bytes say where that is. Whoever
takes a slice between other positions, reads a place that a list does not have, or counts below
zero, stops at once. Here are these operations with that outcome, and what each of them needs to go
well.
-/

namespace LineShell

/-- A mistake that stops a program at once. -/
inductive Panic where
  /-- A list has no such place. -/
  | place (place length : Nat)
  /-- A text has no such slice: its ends are out of order, beyond the text or inside a character. -/
  | slice (start stop : Nat)
  /-- A number would be less than zero. -/
  | belowZero
  /-- A case was met that should not be. -/
  | unreachable (text : String)
  deriving DecidableEq, Repr

/-- What comes of operations that may be mistakes. -/
abbrev Checked (α : Type) := Except Panic α

/-- A step that goes well hands its result on. -/
@[simp] theorem Checked.ok_bind {α β : Type} (a : α) (f : α → Checked β) :
    ((.ok a : Checked α) >>= f) = f a := rfl

@[simp] theorem Checked.pure_eq {α : Type} (a : α) : (pure a : Checked α) = .ok a := rfl

/-- A difference of two sizes. -/
def checkedSub (m n : Nat) : Checked Nat := if n ≤ m then .ok (m - n) else .error .belowZero

theorem checkedSub_add (m n : Nat) : checkedSub (m + n) n = .ok m := by
  simp [checkedSub]

namespace Text

/-! ## Where characters begin -/

/-- A text may be cut at a byte position: at its ends, and where a byte continues no character. -/
def isBoundary (cs : List Char) (position : Nat) : Bool :=
  position = 0 ||
    match (Utf8.encode cs)[position]? with
    | some b => !Utf8.isTail b
    | none => position = byteLength cs

namespace Utf8

/-- The bytes of a character are one that begins it and others that continue it. -/
theorem encodeChar_eq_cons (c : Char) :
    ∃ b tail, String.utf8EncodeChar c = b :: tail ∧ isTail b = false ∧
      ∀ t ∈ tail, isTail t = true := by
  have hstarts := starts_encodeChar c
  have hunit : units (String.utf8EncodeChar c) = [some c] := by
    simpa using units_encodeChar c []
  cases hbytes : String.utf8EncodeChar c with
  | nil => simp [hbytes, starts] at hstarts
  | cons b tail =>
    rw [hbytes] at hstarts hunit
    have hb : isTail b = false := by
      cases hb : isTail b with
      | false => rfl
      | true =>
        rw [units_cons_of_none (Lead.of?_tail hb)] at hunit
        cases hunit
    refine ⟨b, tail, rfl, hb, fun t ht => ?_⟩
    have hrest : starts tail = 0 := by simpa [starts, hb] using hstarts
    simpa using List.countP_eq_zero.1 hrest t ht

end Utf8

theorem isBoundary_zero (cs : List Char) : isBoundary cs 0 = true := rfl

/-- Behind the first byte a text may be cut where its bytes say so. -/
theorem isBoundary_succ (cs : List Char) (position : Nat) :
    isBoundary cs (position + 1) =
      match (Utf8.encode cs)[position + 1]? with
      | some b => !Utf8.isTail b
      | none => position + 1 = byteLength cs := by
  simp [isBoundary]

/-- The first byte of a text, if there is one, begins a character. -/
theorem not_isTail_head_encode (cs : List Char) :
    ∀ b ∈ (Utf8.encode cs)[0]?, Utf8.isTail b = false := by
  cases cs with
  | nil => exact nofun
  | cons c cs =>
    obtain ⟨b, tail, hbytes, hb, -⟩ := Utf8.encodeChar_eq_cons c
    simpa [Utf8.encode_cons, hbytes] using hb

/-- A text is not cut inside its first character, and behind it where the rest of the text is. -/
theorem isBoundary_cons (c : Char) (cs : List Char) (position : Nat) :
    isBoundary (c :: cs) (position + 1) =
      (decide (c.utf8Size ≤ position + 1) && isBoundary cs (position + 1 - c.utf8Size)) := by
  obtain ⟨b, tail, hbytes, -, htail⟩ := Utf8.encodeChar_eq_cons c
  have hsize : tail.length + 1 = c.utf8Size := by
    have hlength := String.length_utf8EncodeChar c
    rwa [hbytes] at hlength
  have hbyte : (Utf8.encode (c :: cs))[position + 1]? = (tail ++ Utf8.encode cs)[position]? := by
    simp [Utf8.encode_cons, hbytes]
  rw [isBoundary_succ, hbyte]
  by_cases h : c.utf8Size ≤ position + 1
  · obtain ⟨k, rfl⟩ : ∃ k, position = tail.length + k := ⟨position - tail.length, by omega⟩
    have hk : tail.length + k + 1 - c.utf8Size = k := by omega
    have hlength : byteLength (c :: cs) = tail.length + 1 + byteLength cs := by
      rw [byteLength_cons, hsize]
    rw [List.getElem?_append_right (by omega), Nat.add_sub_cancel_left, hk, hlength]
    simp only [h, decide_true, Bool.true_and]
    cases k with
    | zero =>
      rw [isBoundary_zero]
      have hhead := not_isTail_head_encode cs
      cases hb : (Utf8.encode cs)[0]? with
      | some b => simp [hhead b hb]
      | none =>
        have hnil : (Utf8.encode cs).length = 0 := Nat.le_zero.1 (List.getElem?_eq_none_iff.1 hb)
        rw [Utf8.length_encode] at hnil
        simp [hnil]
    | succ k =>
      rw [isBoundary_succ]
      cases (Utf8.encode cs)[k + 1]? with
      | some b => rfl
      | none => exact decide_eq_decide.2 (by omega)
  · have hlt : position < tail.length := by omega
    rw [List.getElem?_append_left hlt, List.getElem?_eq_getElem hlt]
    simp [h, htail _ (List.getElem_mem hlt)]

/-- A text can be split at the byte positions where it may be cut, and at no others. -/
theorem isSome_splitAtByte? (position : Nat) (cs : List Char) :
    (splitAtByte? position cs).isSome = isBoundary cs position := by
  fun_induction splitAtByte? position cs with
  | case1 cs => rfl
  | case2 position => simp [isBoundary_succ]
  | case3 position c rest fits ih => rw [Option.isSome_map, ih, isBoundary_cons]; simp [fits]
  | case4 position c rest large => rw [isBoundary_cons]; simp [large]

/-- A text may be cut after each of its beginnings, and there only. -/
theorem isBoundary_iff {cs : List Char} {position : Nat} :
    isBoundary cs position = true ↔
      ∃ before after, cs = before ++ after ∧ byteLength before = position := by
  rw [← isSome_splitAtByte?, Option.isSome_iff_exists]
  constructor
  · rintro ⟨⟨before, after⟩, h⟩
    exact ⟨before, after, splitAtByte?_eq_some h⟩
  · rintro ⟨before, after, rfl, rfl⟩
    exact ⟨_, splitAtByte?_append before after⟩

/-! ## Slices -/

/-- The part of a text between two byte positions: the text of the bytes there. -/
def slice (start stop : Nat) (cs : List Char) : Checked (List Char) :=
  if start ≤ stop && isBoundary cs start && isBoundary cs stop then
    .ok (Utf8.decodeLossy (((Utf8.encode cs).take stop).drop start))
  else .error (.slice start stop)

/-- The part of a text from a byte position on. -/
def sliceFrom (start : Nat) (cs : List Char) : Checked (List Char) := slice start (byteLength cs) cs

/-- A part of a text is the slice from where it begins to where it ends. -/
theorem slice_append (xs ys zs : List Char) :
    slice (byteLength xs) (byteLength (xs ++ ys)) (xs ++ ys ++ zs) = .ok ys := by
  have hstart : isBoundary (xs ++ ys ++ zs) (byteLength xs) = true :=
    isBoundary_iff.2 ⟨xs, ys ++ zs, by simp, rfl⟩
  have hstop : isBoundary (xs ++ ys ++ zs) (byteLength (xs ++ ys)) = true :=
    isBoundary_iff.2 ⟨xs ++ ys, zs, rfl, rfl⟩
  have hle : byteLength xs ≤ byteLength (xs ++ ys) := by
    rw [byteLength_append]
    omega
  have hbytes : ((Utf8.encode (xs ++ ys ++ zs)).take (byteLength (xs ++ ys))).drop (byteLength xs) =
      Utf8.encode ys := by
    rw [Utf8.encode_append, ← Utf8.length_encode (xs ++ ys), List.take_left, Utf8.encode_append,
      ← Utf8.length_encode xs, List.drop_left]
  simp only [slice, hstart, hstop, hle, decide_true, Bool.and_self, ↓reduceIte, hbytes,
    Utf8.decodeLossy_encode]

theorem slice_prefix (xs ys : List Char) : slice 0 (byteLength xs) (xs ++ ys) = .ok xs :=
  slice_append [] xs ys

theorem sliceFrom_append (xs ys : List Char) : sliceFrom (byteLength xs) (xs ++ ys) = .ok ys := by
  have h := slice_append xs ys []
  rwa [List.append_nil] at h

/-- A slice from or to the middle of a character is a mistake, as is one beyond the end. -/
example : slice 1 3 ['é', 'a'] = .error (.slice 1 3) ∧ slice 2 4 ['é', 'a'] = .error (.slice 2 4) :=
  ⟨rfl, rfl⟩

end Text

end LineShell
