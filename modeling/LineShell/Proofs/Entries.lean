import LineShell.Settings.File
import LineShell.Text.Fit
import Mathlib.Data.List.DropRight
import Mathlib.Data.List.TakeDrop

/-!
# What a line of a settings file asks for

A line is read without the blanks around it. It sets something unless it is blank, a comment, or
without an equals sign; the first equals sign ends the key, and one pair of quotes around the value
is no part of it.
-/

namespace LineShell

/-! ## Trimming -/

namespace Text

theorem trimStart_gap_append {gap : List Char} (hg : ∀ c ∈ gap, isBlank c = true)
    (cs : List Char) : trimStart (gap ++ cs) = trimStart cs :=
  List.dropWhile_append_of_pos hg

theorem trimStart_gap {gap : List Char} (hg : ∀ c ∈ gap, isBlank c = true) : trimStart gap = [] :=
  List.dropWhile_eq_nil_iff.2 hg

theorem trimStart_of_head {cs : List Char} (h : ∀ c ∈ cs.head?, isBlank c = false) :
    trimStart cs = cs := by
  cases cs with
  | nil => rfl
  | cons c cs => simp [trimStart, h c (by simp)]

/-- Nothing is trimmed behind a character that is not blank. -/
theorem trimStart_append_cons {c : Char} (hc : isBlank c = false) (xs ys : List Char) :
    trimStart (xs ++ c :: ys) = trimStart xs ++ c :: ys := by
  induction xs with
  | nil => exact trimStart_of_head (by simpa using hc)
  | cons x xs ih => cases hx : isBlank x <;> simp_all [trimStart]

theorem trimStart_trimStart (cs : List Char) : trimStart (trimStart cs) = trimStart cs :=
  List.dropWhile_idempotent _ cs

theorem trimEnd_trimEnd (cs : List Char) : trimEnd (trimEnd cs) = trimEnd cs := by
  simp [trimEnd, trimStart_trimStart]

theorem trimEnd_append_gap {gap : List Char} (hg : ∀ c ∈ gap, isBlank c = true)
    (cs : List Char) : trimEnd (cs ++ gap) = trimEnd cs := by
  rw [trimEnd, List.reverse_append, trimStart_gap_append (by simpa using hg), trimEnd]

theorem trimEnd_append_cons {c : Char} (hc : isBlank c = false) (xs ys : List Char) :
    trimEnd (xs ++ c :: ys) = xs ++ c :: trimEnd ys := by
  simp [trimEnd, trimStart_append_cons hc]

/-- A character that is not blank divides what trimming does. -/
theorem trim_append_cons {c : Char} (hc : isBlank c = false) (xs ys : List Char) :
    trim (xs ++ c :: ys) = trimStart xs ++ c :: trimEnd ys := by
  rw [trim, trimStart_append_cons hc, trimEnd_append_cons hc]

theorem trim_gap {gap : List Char} (hg : ∀ c ∈ gap, isBlank c = true) : trim gap = [] := by
  rw [trim, trimStart_gap hg]
  rfl

theorem trim_of_ends {cs : List Char} (hh : ∀ c ∈ cs.head?, isBlank c = false)
    (hl : ∀ c ∈ cs.getLast?, isBlank c = false) : trim cs = cs := by
  rw [trim, trimStart_of_head hh, trimEnd, trimStart_of_head (by simpa using hl),
    List.reverse_reverse]

theorem trim_trimStart (cs : List Char) : trim (trimStart cs) = trim cs := by
  rw [trim, trimStart_trimStart, trim]

theorem trim_trimEnd (cs : List Char) : trim (trimEnd cs) = trim cs := by
  by_cases h : ∀ c ∈ cs, isBlank c = true
  · have hn : trimEnd cs = [] := trimEnd_append_gap h []
    rw [hn, trim_gap h]
    rfl
  · obtain ⟨c, hc, hb⟩ : ∃ c ∈ cs, isBlank c = false := by simpa using h
    obtain ⟨xs, ys, rfl⟩ := List.append_of_mem hc
    rw [trimEnd_append_cons hb, trim_append_cons hb, trim_append_cons hb, trimEnd_trimEnd]

/-- Gaps around a text that is trimmed already are what trimming takes. -/
theorem trim_between_gaps {lead cs trail : List Char} (hl : ∀ c ∈ lead, isBlank c = true)
    (ht : ∀ c ∈ trail, isBlank c = true) (hs : trim cs = cs) :
    trim (lead ++ (cs ++ trail)) = cs := by
  rw [← trim_trimStart, trimStart_gap_append hl, trim_trimStart, ← trim_trimEnd,
    trimEnd_append_gap ht, trim_trimEnd, hs]

end Text

namespace SettingsFile

/-! ## Quotes -/

/-- A text is in quotes when it starts and ends with one, and these are two. -/
def IsQuoted (text : List Char) : Prop :=
  2 ≤ Text.byteLength text ∧ text.head? = some '"' ∧ text.getLast? = some '"'

instance (text : List Char) : Decidable (IsQuoted text) := by
  unfold IsQuoted
  infer_instance

theorem isQuoted_iff {text : List Char} :
    IsQuoted text ↔ ∃ inner, text = '"' :: (inner ++ ['"']) := by
  have hsize : '"'.utf8Size = 1 := by decide
  constructor
  · rintro ⟨hlength, hhead, hlast⟩
    obtain ⟨rest, rfl⟩ := List.head?_eq_some_iff.1 hhead
    cases rest with
    | nil => simp [hsize] at hlength
    | cons c rest =>
      rw [List.getLast?_cons_cons] at hlast
      obtain ⟨inner, hi⟩ := List.getLast?_eq_some_iff.1 hlast
      exact ⟨inner, by rw [hi]⟩
  · rintro ⟨inner, rfl⟩
    refine ⟨?_, rfl, by simp [List.getLast?_cons]⟩
    simp only [Text.byteLength_cons, Text.byteLength_append, Text.byteLength_nil, hsize]
    omega

theorem unquote_quoted (inner : List Char) : unquote ('"' :: (inner ++ ['"'])) = inner := by
  simp [unquote]

theorem unquote_eq (text : List Char) :
    unquote text = if IsQuoted text then text.tail.dropLast else text := by
  split
  · next h =>
    obtain ⟨inner, rfl⟩ := isQuoted_iff.1 h
    simp [unquote]
  · next h =>
    unfold unquote
    split
    · next rest =>
      split
      · next hlast =>
        obtain ⟨inner, rfl⟩ := List.getLast?_eq_some_iff.1 hlast
        exact absurd (isQuoted_iff.2 ⟨inner, rfl⟩) h
      · rfl
    · rfl

/-! ## Entries -/

theorem span_equals {before : List Char} (hb : '=' ∉ before) (after : List Char) :
    (before ++ '=' :: after).span (· != '=') = (before, '=' :: after) := by
  have hp : ∀ c ∈ before, (c != '=') = true := fun c hc => by
    simpa using fun he : c = '=' => hb (he ▸ hc)
  rw [List.span_eq_takeWhile_dropWhile, List.takeWhile_append_of_pos hp,
    List.dropWhile_append_of_pos hp]
  simp

namespace Entry

/-- What a line asks for that is neither blank nor a comment. -/
theorem ofLine_of_head {line : List Char} {c : Char} (hh : (Text.trim line).head? = some c)
    (hc : c ≠ '#') :
    ofLine line = match (Text.trim line).span (· != '=') with
      | (_, []) => malformed
      | (key, _ :: value) => setting (Text.trim key) (unquote (Text.trim value)) := by
  obtain ⟨rest, hr⟩ := List.head?_eq_some_iff.1 hh
  unfold ofLine
  rw [hr]
  simp only
  split
  · next he => cases he
  · next he => exact absurd (List.cons.inj he).1 hc
  · rfl

theorem ofLine_of_blank {line : List Char} (h : Text.trim line = []) : ofLine line = nothing := by
  simp [ofLine, h]

theorem ofLine_of_comment {line : List Char} (h : (Text.trim line).head? = some '#') :
    ofLine line = nothing := by
  obtain ⟨rest, hr⟩ := List.head?_eq_some_iff.1 h
  simp [ofLine, hr]

/-- What stands before the first equals sign is set to what stands behind it. -/
theorem ofLine_of_equals {line before after : List Char}
    (ht : Text.trim line = before ++ '=' :: after) (hb : '=' ∉ before)
    (hc : (Text.trim line).head? ≠ some '#') :
    ofLine line = setting (Text.trim before) (unquote (Text.trim after)) := by
  have hn : Text.trim line ≠ [] := by simp [ht]
  obtain ⟨c, hh⟩ := Option.isSome_iff_exists.1 (List.isSome_head?.2 hn)
  rw [ofLine_of_head hh (by rintro rfl; exact hc hh), ht, span_equals hb]

/-- A line that is split before it is trimmed asks for the same. -/
theorem ofLine_append {before : List Char} (hb : '=' ∉ before)
    (hc : (Text.trimStart before).head? ≠ some '#') (after : List Char) :
    ofLine (before ++ '=' :: after) = setting (Text.trim before) (unquote (Text.trim after)) := by
  have ht := Text.trim_append_cons (c := '=') (by decide) before after
  have hb' : '=' ∉ Text.trimStart before := fun h => hb (List.dropWhile_subset _ h)
  rw [ofLine_of_equals ht hb', Text.trim_trimStart, Text.trim_trimEnd]
  rw [ht, List.head?_append]
  cases hs : (Text.trimStart before).head? <;> simp_all

end Entry

end SettingsFile

end LineShell
