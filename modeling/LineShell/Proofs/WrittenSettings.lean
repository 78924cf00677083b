import LineShell.Proofs.Assignments

/-!
# Settings written down

Settings can be written into a file and read back. Each key has a line, the lines stand in any order
and with idle ones between them, blanks may surround keys and values, and quotes around a value keep
whatever it begins and ends with.
-/

namespace LineShell

/-! ## Numbers -/

namespace Limit

theorem digit?_of_isDigit {c : Char} (h : c.isDigit = true) :
    digit? c = some (c.toNat - '0'.toNat) := if_pos h

/-- Digits are read as the number that they stand for, if it is not too large, and reading goes on
from there. -/
theorem readDigits_append {digits : List Char} (hd : ∀ c ∈ digits, c.isDigit = true) {sofar : Nat}
    (h : Nat.ofDigitChars 10 digits sofar ≤ greatest) (rest : List Char) :
    readDigits sofar (digits ++ rest) = readDigits (Nat.ofDigitChars 10 digits sofar) rest := by
  induction digits generalizing sofar with
  | nil => rfl
  | cons c digits ih =>
    rw [Nat.ofDigitChars_cons, Nat.mul_comm] at h ⊢
    -- No beginning of the number is larger than the number.
    have hle : sofar * 10 + (c.toNat - '0'.toNat) ≤ greatest := by
      rw [Nat.ofDigitChars_eq_ofDigitChars_zero] at h
      have := Nat.le_mul_of_pos_left (sofar * 10 + (c.toNat - '0'.toNat))
        (Nat.pow_pos (n := digits.length) (show 0 < 10 by decide))
      omega
    rw [List.cons_append, readDigits, digit?_of_isDigit (hd c (by simp))]
    simp only [Nat.not_lt.2 hle, if_false]
    exact ih (fun d hm => hd d (by simp [hm])) h

theorem readDigits_eq {digits : List Char} (hd : ∀ c ∈ digits, c.isDigit = true) {sofar : Nat}
    (h : Nat.ofDigitChars 10 digits sofar ≤ greatest) :
    readDigits sofar digits = .ok (Nat.ofDigitChars 10 digits sofar) := by
  have hread := readDigits_append hd h []
  rwa [List.append_nil] at hread

theorem isDigit_of_mem_toDigits {n : Nat} {c : Char} (h : c ∈ Nat.toDigits 10 n) :
    c.isDigit = true :=
  Nat.isDigit_of_mem_toDigits (by decide) (by decide) h

theorem readNumber_toDigits {n : Nat} (h : n ≤ greatest) :
    readNumber (Nat.toDigits 10 n) = .ok n := by
  have hdigits : ∀ c ∈ Nat.toDigits 10 n, c.isDigit = true := fun c => isDigit_of_mem_toDigits
  have hread : readDigits 0 (Nat.toDigits 10 n) = .ok n := by
    have hn : Nat.ofDigitChars 10 (Nat.toDigits 10 n) 0 = n := Nat.ofDigitChars_ten_toDigits
    rw [readDigits_eq hdigits (hn.symm ▸ h), hn]
  have hplus : ∀ rest, Nat.toDigits 10 n ≠ '+' :: rest := by
    intro rest he
    exact absurd (hdigits '+' (he ▸ List.mem_cons_self)) (by decide)
  unfold readNumber
  split
  · next he => exact absurd he Nat.toDigits_ne_nil
  · next he => exact absurd he (hplus _)
  · next he => exact absurd he (hplus _)
  · exact hread

/-- A limit is read from its decimal form. -/
theorem parse_toDigits {n : Nat} (h : 2 ≤ n ∧ n < UInt64.size) :
    parse (String.ofList (Nat.toDigits 10 n)) = .ok n := by
  have hread : readNumber (Nat.toDigits 10 n) = .ok n :=
    readNumber_toDigits (Nat.le_pred_of_lt h.2)
  simp [parse, hread, Nat.not_lt.2 h.1]

end Limit

/-! ## Values -/

namespace SettingKey

/-- Every key. -/
def all : List SettingKey := [.prompt, .maxLine, .maxArgs, .split, .editor]

/-- The text of the value that a key has. -/
def text (s : Settings) : SettingKey → List Char
  | .prompt => s.prompt.toList
  | .maxLine => Nat.toDigits 10 s.maxLine
  | .maxArgs => Nat.toDigits 10 s.maxArgs
  | .split => s.split.name.toList
  | .editor => s.editor.name.toList

end SettingKey

/-- Settings whose values can be written: limits of 64 bits that are not too small, and a prompt
within one line. -/
structure Settings.IsWritable (s : Settings) : Prop where
  maxLine : 2 ≤ s.maxLine ∧ s.maxLine < UInt64.size
  maxArgs : 2 ≤ s.maxArgs ∧ s.maxArgs < UInt64.size
  prompt : '\n' ∉ s.prompt.toList

namespace SettingKey

variable {s : Settings}

/-- A key accepts the text of its value. -/
theorem fault?_text (h : s.IsWritable) (k : SettingKey) :
    k.fault? (String.ofList (k.text s)) = none := by
  cases k with
  | prompt => rfl
  | maxLine => simp only [fault?, text, Limit.parse_toDigits h.maxLine]
  | maxArgs => simp only [fault?, text, Limit.parse_toDigits h.maxArgs]
  | split => simp [fault?, text]
  | editor => simp [fault?, text]

/-- The text of its value gives it that value. -/
theorem holds_text (h : s.IsWritable) (k : SettingKey) (before : Settings) :
    k.Holds (some (String.ofList (k.text s))) before s := by
  cases k with
  | prompt => simp [Holds, Takes, text]
  | maxLine => simp [Holds, Takes, text, Limit.parse_toDigits h.maxLine, Except.toOption]
  | maxArgs => simp [Holds, Takes, text, Limit.parse_toDigits h.maxArgs, Except.toOption]
  | split => simp [Holds, Takes, text]
  | editor => simp [Holds, Takes, text]

theorem plain_of_isDigit {c : Char} (h : c.isDigit = true) :
    Text.isBlank c = false ∧ c ≠ '"' := by
  simp only [Char.isDigit, Bool.and_eq_true, decide_eq_true_eq, ge_iff_le,
    UInt32.le_iff_toNat_le] at h
  have hlow : 48 ≤ c.toNat := h.1
  have hhigh : c.toNat ≤ 57 := h.2
  constructor
  · simp [Text.isBlank]
    omega
  · rintro rfl
    exact absurd hlow (by decide)

theorem plain_of_all {cs : List Char} (h : cs.all fun c => !Text.isBlank c && c != '"') :
    ∀ c ∈ cs, Text.isBlank c = false ∧ c ≠ '"' := by
  simpa using h

/-- Numbers and modes have nothing that is trimmed or taken for a quote. -/
theorem plain_of_mem_text {k : SettingKey} (hk : k ≠ .prompt) :
    ∀ c ∈ k.text s, Text.isBlank c = false ∧ c ≠ '"' := by
  cases k with
  | prompt => exact absurd rfl hk
  | maxLine | maxArgs => exact fun c hc => plain_of_isDigit (Limit.isDigit_of_mem_toDigits hc)
  | split =>
    simp only [text]
    cases s.split <;> exact plain_of_all (by decide)
  | editor =>
    simp only [text]
    cases s.editor <;> exact plain_of_all (by decide)

theorem newline_not_mem_text (h : s.IsWritable) (k : SettingKey) : '\n' ∉ k.text s := by
  by_cases hk : k = .prompt
  · subst hk
    exact h.prompt
  · intro hm
    exact absurd (plain_of_mem_text hk _ hm).1 (by decide)

theorem name_injective {j k : SettingKey} (h : j.name = k.name) : j = k := by
  have hj := ofName?_name j
  rw [h, ofName?_name] at hj
  exact (Option.some.inj hj).symm

theorem trim_name (k : SettingKey) : Text.trim k.name.toList = k.name.toList := by
  cases k <;> decide

theorem equals_not_mem_name (k : SettingKey) : '=' ∉ k.name.toList := by
  cases k <;> decide

/-- A key starts with a character that is neither blank nor the sign of a comment. -/
theorem exists_name_eq (k : SettingKey) :
    ∃ c rest, k.name.toList = c :: rest ∧ Text.isBlank c = false ∧ c ≠ '#' := by
  cases k <;> exact ⟨_, _, rfl, rfl, by decide⟩

end SettingKey

/-! ## Lines -/

namespace SettingsFile

/-- Blanks within a line. -/
def IsGap (gap : List Char) : Prop := ∀ c ∈ gap, Text.isBlank c = true ∧ c ≠ '\n'

instance (gap : List Char) : Decidable (IsGap gap) :=
  List.decidableBAll (fun c => Text.isBlank c = true ∧ c ≠ '\n') gap

theorem IsGap.blank {gap : List Char} (h : IsGap gap) : ∀ c ∈ gap, Text.isBlank c = true :=
  fun c hc => (h c hc).1

/-- A line that has no value for any key: a blank one, a comment, or one that names no key. -/
inductive IsIdle : List Char → Prop
  | blank {gap : List Char} (hg : IsGap gap) : IsIdle gap
  | comment {gap note : List Char} (hg : IsGap gap) (hn : '\n' ∉ note) :
    IsIdle (gap ++ '#' :: note)
  | unknown {name value : List Char} (hn : '\n' ∉ name) (hv : '\n' ∉ value) (he : '=' ∉ name)
    (hk : ∀ k : SettingKey, Text.trim name ≠ k.name.toList) : IsIdle (name ++ '=' :: value)

/-- A way to write a value: in quotes or, if it is no prompt, as it is. -/
def IsForm (s : Settings) (k : SettingKey) (form : List Char) : Prop :=
  form = '"' :: (k.text s ++ ['"']) ∨ k ≠ .prompt ∧ form = k.text s

/-- A line that writes the value of a key, with blanks around the key and around the value. -/
inductive Writes (s : Settings) (k : SettingKey) : List Char → Prop
  | line {lead before after trail form : List Char} (hl : IsGap lead) (hb : IsGap before)
    (ha : IsGap after) (ht : IsGap trail) (hf : IsForm s k form) :
    Writes s k (lead ++ (k.name.toList ++ before) ++ '=' :: (after ++ (form ++ trail)))

/-- Lines that write the values of some keys in their order, with idle lines between them. -/
inductive Lists (s : Settings) : List SettingKey → List (List Char) → Prop
  | nil : Lists s [] []
  | idle {keys : List SettingKey} {line : List Char} {lines : List (List Char)} (hi : IsIdle line)
    (hl : Lists s keys lines) : Lists s keys (line :: lines)
  | setting {k : SettingKey} {keys : List SettingKey} {line : List Char}
    {lines : List (List Char)} (hw : Writes s k line) (hl : Lists s keys lines) :
    Lists s (k :: keys) (line :: lines)

theorem IsGap.newline_not_mem {gap : List Char} (h : IsGap gap) : '\n' ∉ gap :=
  fun hm => (h _ hm).2 rfl

theorem IsGap.equals_not_mem {gap : List Char} (h : IsGap gap) : '=' ∉ gap :=
  fun hm => absurd (h _ hm).1 (by decide)

theorem IsIdle.newline_not_mem {line : List Char} (h : IsIdle line) : '\n' ∉ line := by
  cases h with
  | blank hg => exact hg.newline_not_mem
  | comment hg hn => simp [hg.newline_not_mem, hn]
  | unknown hn hv => simp [hn, hv]

theorem ofLine_of_trim_head {line : List Char} (h : (Text.trim line).head? = some '#') :
    (∀ k, valueFor? k line = none) ∧ refusal? line = none := by
  simp [valueFor?, refusal?, Entry.ofLine_of_comment h]

/-- An idle line sets no key, and is no error. -/
theorem IsIdle.sets_nothing {line : List Char} (h : IsIdle line) :
    (∀ k, valueFor? k line = none) ∧ refusal? line = none := by
  cases h with
  | blank hg => simp [valueFor?, refusal?, Entry.ofLine_of_blank (Text.trim_gap hg.blank)]
  | @comment gap note hg hn =>
    apply ofLine_of_trim_head
    rw [Text.trim_append_cons (by decide), Text.trimStart_gap hg.blank]
    rfl
  | @unknown name value hn hv he hk =>
    by_cases hc : (Text.trimStart name).head? = some '#'
    · apply ofLine_of_trim_head
      rw [Text.trim_append_cons (by decide), List.head?_append, hc]
      rfl
    · have hl := Entry.ofLine_append he hc value
      have hne : ∀ k : SettingKey, String.ofList (Text.trim name) ≠ k.name := by
        intro k hs
        exact hk k (by rw [← hs, String.toList_ofList])
      have hnone : SettingKey.ofName? (String.ofList (Text.trim name)) = none := by
        rw [Option.eq_none_iff_forall_ne_some]
        exact fun k hs => hne k (SettingKey.name_of_ofName? hs).symm
      simp [valueFor?, refusal?, hl, hne, hnone]

theorem IsForm.newline_not_mem {s : Settings} (hs : s.IsWritable) {k : SettingKey}
    {form : List Char} (h : IsForm s k form) : '\n' ∉ form := by
  have ht := SettingKey.newline_not_mem_text hs k
  rcases h with rfl | ⟨-, rfl⟩
  · simp [ht]
  · exact ht

/-- Trimming does not change a written value, and it is the text of the value but for quotes. -/
theorem IsForm.read {s : Settings} {k : SettingKey} {form : List Char} (h : IsForm s k form) :
    Text.trim form = form ∧ unquote form = k.text s := by
  rcases h with rfl | ⟨hk, rfl⟩
  · have hq : Text.isBlank '"' = false := rfl
    exact ⟨Text.trim_of_ends (by simp [hq]) (by simp [List.getLast?_cons, hq]), unquote_quoted _⟩
  · have hplain := SettingKey.plain_of_mem_text (s := s) hk
    constructor
    · apply Text.trim_of_ends
      · exact fun c hc => (hplain c (List.mem_of_head? hc)).1
      · exact fun c hc => (hplain c (List.mem_of_getLast? hc)).1
    · rw [unquote_eq, if_neg]
      rintro ⟨-, hq, -⟩
      exact (hplain _ (List.mem_of_head? hq)).2 rfl

theorem Writes.newline_not_mem {s : Settings} (hs : s.IsWritable) {k : SettingKey}
    {line : List Char} (h : Writes s k line) : '\n' ∉ line := by
  obtain ⟨hl, hb, ha, ht, hf⟩ := h
  have hname : '\n' ∉ k.name.toList := by cases k <;> decide
  simp [hl.newline_not_mem, hb.newline_not_mem, ha.newline_not_mem, ht.newline_not_mem,
    hf.newline_not_mem hs, hname]

/-- A line that writes a value asks for just that. -/
theorem Writes.ofLine {s : Settings} {k : SettingKey} {line : List Char} (h : Writes s k line) :
    Entry.ofLine line = .setting k.name.toList (k.text s) := by
  obtain @⟨lead, before, after, trail, form, hl, hb, ha, ht, hf⟩ := h
  obtain ⟨c, rest, hname, hblank, hsharp⟩ := k.exists_name_eq
  have hequals : '=' ∉ lead ++ (k.name.toList ++ before) := by
    simp [hl.equals_not_mem, hb.equals_not_mem, k.equals_not_mem_name]
  have hstart : (Text.trimStart (lead ++ (k.name.toList ++ before))).head? ≠ some '#' := by
    rw [Text.trimStart_gap_append hl.blank, hname, List.cons_append,
      Text.trimStart_of_head (by simpa using hblank)]
    simpa using hsharp
  obtain ⟨htrim, hread⟩ := hf.read
  rw [Entry.ofLine_append hequals hstart, Text.trim_between_gaps hl.blank hb.blank k.trim_name,
    Text.trim_between_gaps ha.blank ht.blank htrim, hread]

/-! ## Files -/

section Lists

variable {s : Settings} {keys : List SettingKey} {ls : List (List Char)}

theorem Lists.newline_not_mem (h : Lists s keys ls) (hs : s.IsWritable) :
    ∀ line ∈ ls, '\n' ∉ line := by
  induction h with
  | nil => simp
  | idle hi hl ih => simpa using ⟨hi.newline_not_mem, ih⟩
  | setting hw hl ih => simpa using ⟨hw.newline_not_mem hs, ih⟩

theorem Lists.refusal?_eq_none (h : Lists s keys ls) (hs : s.IsWritable) :
    ∀ line ∈ ls, refusal? line = none := by
  induction h with
  | nil => simp
  | idle hi hl ih => simpa using ⟨hi.sets_nothing.2, ih⟩
  | @setting k keys line lines hw hl ih =>
    have hline : refusal? line = none := by
      simp [refusal?, hw.ofLine, SettingKey.fault?_text hs k]
    simpa using ⟨hline, ih⟩

/-- Each key is given its text once for each line that writes it, and nothing else. -/
theorem Lists.values_eq (h : Lists s keys ls) (k : SettingKey) :
    ls.filterMap (valueFor? k) = List.replicate (keys.count k) (String.ofList (k.text s)) := by
  induction h with
  | nil => simp
  | idle hi hl ih => rw [List.filterMap_cons, hi.sets_nothing.1 k, ih]
  | @setting j keys line lines hw hl ih =>
    rw [List.filterMap_cons, ih]
    by_cases hk : j = k
    · subst hk
      simp [valueFor?, hw.ofLine, List.replicate_succ]
    · have hne : j.name ≠ k.name := fun he => hk (SettingKey.name_injective he)
      simp [valueFor?, hw.ofLine, hne, hk]

end Lists

/-- Cutting at newlines leaves the lines of a text, or these and an empty piece. -/
theorem splitOn_eq_lines (text : List Char) :
    text.splitOn '\n' = lines text ∨ text.splitOn '\n' = lines text ++ [[]] := by
  unfold lines
  split
  · next rest he =>
    right
    rw [← List.reverse_reverse (text.splitOn '\n'), he]
    simp
  · left
    simp

/-- Reading what writes every key gives the settings that were written. -/
theorem readLines_written {s : Settings} (hs : s.IsWritable) {keys : List SettingKey}
    (hkeys : ∀ k, k ∈ keys) {ls : List (List Char)} (h : Lists s keys ls) {text : List Char}
    (ht : text.splitOn '\n' = ls) : (readLines 1 {} (lines text)).result = .ok s := by
  have hsub : (lines text).findSome? refusal? = none ∧
      ∀ k, (lines text).filterMap (valueFor? k) = ls.filterMap (valueFor? k) := by
    have hnone := h.refusal?_eq_none hs
    rcases splitOn_eq_lines text with hl | hl
    · rw [← hl, ht]
      exact ⟨by simpa using hnone, fun k => rfl⟩
    · rw [← ht, hl] at hnone ⊢
      refine ⟨by simpa using fun line hm => hnone line (by simp [hm]), fun k => ?_⟩
      have hempty : valueFor? k [] = none := (IsIdle.blank (by simp [IsGap])).sets_nothing.1 k
      simp [hempty]
  obtain ⟨-, hresult⟩ := readLines_eq 1 {} (lines text)
  rw [hsub.1] at hresult
  obtain ⟨read, hok, hholds⟩ := hresult
  have hlast : ∀ k, ((lines text).filterMap (valueFor? k)).getLast? =
      some (String.ofList (k.text s)) := by
    intro k
    have hcount : keys.count k ≠ 0 := (List.count_pos_iff.2 (hkeys k)).ne'
    simp [hsub.2 k, h.values_eq k, List.getLast?_replicate, hcount]
  have hread : ∀ k : SettingKey, k.Holds (some (String.ofList (k.text s))) {} read :=
    fun k => hlast k ▸ hholds k
  rw [hok, SettingKey.Holds.unique hread fun k => SettingKey.holds_text hs k {}]

/-- Settings whose limits are at least 2 and have 64 bits, and whose prompt stays within one line,
are read back from a file that writes each key in a line of its own, in any order and with idle
lines between. Numbers are decimal, and the prompt is in quotes. -/
theorem load_written (s : Settings) (hline : 2 ≤ s.maxLine ∧ s.maxLine < UInt64.size)
    (hargs : 2 ≤ s.maxArgs ∧ s.maxArgs < UInt64.size) (hprompt : '\n' ∉ s.prompt.toList)
    (keys : List SettingKey) (hkeys : keys.Perm SettingKey.all) (ls : List (List Char))
    (hls : Lists s keys ls) (path : String) (required : Bool) (find : String → Found)
    (hfind : find path = .file (.ok (Text.Utf8.encode (['\n'].intercalate ls)))) :
    (load { path := some path, required } find).result = .ok s := by
  have hs : s.IsWritable := ⟨hline, hargs, hprompt⟩
  have hall : ∀ k, k ∈ keys := fun k => hkeys.mem_iff.2 (by cases k <;> decide)
  have hne : ls ≠ [] := by
    rintro rfl
    cases hls
    simpa using hall .prompt
  have hsplit : (['\n'].intercalate ls).splitOn '\n' = ls :=
    List.splitOn_intercalate '\n' (hls.newline_not_mem hs) hne
  rw [load_of_readable hfind required]
  exact readLines_written hs hall hls hsplit

/-- A prompt of a blank, a quote, an equals sign, the sign of a comment and a carriage return, the
least and the greatest limit, and lines of every kind. -/
theorem load_written_shuffled :
    let s : Settings :=
      { prompt := " \"=#\r", maxLine := 2, maxArgs := 18446744073709551615, split := .space
        editor := .off }
    let keys : List SettingKey := [.editor, .split, .maxArgs, .prompt, .maxLine]
    let ls : List (List Char) :=
      [" # all keys".toList, "\teditor=off".toList, "\r".toList, "split = \"space\"".toList,
        "colour = prompt = red".toList, "max_args = 18446744073709551615".toList,
        "prompt = \" \"=#\r\" ".toList, "max_line = 2".toList, []]
    let find : String → Found := fun _ =>
      .file (.ok (Text.Utf8.encode (['\n'].intercalate ls)))
    (2 ≤ s.maxLine ∧ s.maxLine < UInt64.size) ∧ (2 ≤ s.maxArgs ∧ s.maxArgs < UInt64.size) ∧
      '\n' ∉ s.prompt.toList ∧ keys.Perm SettingKey.all ∧ Lists s keys ls ∧
      (load { path := some "rc", required := false } find).result = .ok s := by
  intro s keys ls find
  have hprompt : '\n' ∉ s.prompt.toList := by decide
  have hkeys : keys.Perm SettingKey.all := by decide
  have hnone : IsGap [] := by decide
  have hspace : IsGap [' '] := by decide
  have hreturn : IsGap ['\r'] := by decide
  have htab : IsGap ['\t'] := by decide
  have heditor := @Writes.line s .editor ['\t'] [] [] [] "off".toList htab hnone hnone hnone
    (.inr ⟨by decide, rfl⟩)
  have hsplit := @Writes.line s .split [] [' '] [' '] [] "\"space\"".toList hnone hspace hspace
    hnone (.inl (by decide))
  have hmaxArgs := @Writes.line s .maxArgs [] [' '] [' '] [] "18446744073709551615".toList hnone
    hspace hspace hnone (.inr ⟨by decide, by decide⟩)
  have hquoted := @Writes.line s .prompt [] [' '] [' '] [' '] "\" \"=#\r\"".toList hnone hspace
    hspace hspace (.inl (by decide))
  have hmaxLine := @Writes.line s .maxLine [] [' '] [' '] [] "2".toList hnone hspace hspace hnone
    (.inr ⟨by decide, by decide⟩)
  have hcolour : IsIdle ("colour ".toList ++ '=' :: " prompt = red".toList) := by
    refine .unknown (by decide) (by decide) (by decide) fun k => ?_
    cases k <;> decide
  have hls : Lists s keys ls :=
    .idle (.comment hspace (by decide)) <| .setting heditor <| .idle (.blank hreturn) <|
      .setting hsplit <| .idle hcolour <| .setting hmaxArgs <| .setting hquoted <|
      .setting hmaxLine <| .idle (.blank hnone) .nil
  exact ⟨by decide, by decide, hprompt, hkeys, hls,
    load_written s (by decide) (by decide) hprompt keys hkeys ls hls "rc" false find rfl⟩

end SettingsFile

end LineShell
