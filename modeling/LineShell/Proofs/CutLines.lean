import LineShell.Proofs.Safety
import Mathlib.Data.List.DropRight

/-!
# Lines that are cut

A line from the editor is cut behind the last character that there is room for. Less than a
character of the room is left over, and the cut line says what the first words of the line say, the
last of which may only be begun.
-/

namespace LineShell

namespace Text

/-! ## The longest beginning that fits -/

/-- What is left of the room is too little for some character. -/
theorem room_lt_byteLength_fitting {room : Nat} {cs : List Char} (h : room < byteLength cs) :
    room < byteLength (fitting room cs) + 4 := by
  fun_induction fitting room cs with
  | case1 => simp at h
  | case2 room c rest fits ih =>
    rw [byteLength_cons] at h ⊢
    have hrest := ih (by omega)
    omega
  | case3 room c rest large =>
    have hsize := c.utf8Size_le_four
    omega

/-- No beginning that fits is longer. -/
theorem byteLength_le_fitting {room : Nat} {before : List Char} (h : byteLength before ≤ room)
    (after : List Char) : byteLength before ≤ byteLength (fitting room (before ++ after)) := by
  induction before generalizing room with
  | nil => simp
  | cons c before ih =>
    rw [byteLength_cons] at h
    have hroom : byteLength before ≤ room - c.utf8Size := by omega
    have hrest := ih hroom
    rw [List.cons_append, fitting, if_pos (by omega), byteLength_cons, byteLength_cons]
    omega

/-- What fits ends at a boundary. -/
theorem isBoundary_fitting (room : Nat) (cs : List Char) :
    isBoundary cs (byteLength (fitting room cs)) = true := by
  obtain ⟨rest, hrest⟩ := fitting_prefix room cs
  exact isBoundary_iff.2 ⟨_, rest, hrest.symm, rfl⟩

/-- It ends at the last boundary that the room reaches. -/
theorem le_byteLength_fitting {room position : Nat} {cs : List Char}
    (h : isBoundary cs position = true) (hle : position ≤ room) :
    position ≤ byteLength (fitting room cs) := by
  obtain ⟨before, after, rfl, rfl⟩ := isBoundary_iff.1 h
  exact byteLength_le_fitting hle after

/-- What fits has the bytes of the text up to there. -/
theorem encode_fitting (room : Nat) (cs : List Char) :
    Utf8.encode (fitting room cs) = (Utf8.encode cs).take (byteLength (fitting room cs)) := by
  obtain ⟨rest, hrest⟩ := fitting_prefix room cs
  have hbytes : Utf8.encode cs = Utf8.encode (fitting room cs) ++ Utf8.encode rest := by
    rw [← Utf8.encode_append, hrest]
  rw [hbytes, ← Utf8.length_encode, List.take_left]

/-! ## The words of a beginning -/

/-- Some words open others: they are the first of them, or all but the last are, which is begun. -/
def Opens (kept all : List String) : Prop :=
  kept <+: all ∨
    ∃ before last word after, kept = before ++ [last] ∧ all = before ++ word :: after ∧
      last ≠ "" ∧ last ≠ word ∧ last.toList <+: word.toList

/-- The first of some words that open others open them too. -/
theorem Opens.take {kept all : List String} (h : Opens kept all) (n : Nat) :
    Opens (kept.take n) all := by
  rcases h with h | ⟨before, last, word, after, rfl, rfl, h⟩
  · exact .inl ((List.take_prefix n kept).trans h)
  · by_cases hn : n ≤ before.length
    · rw [List.take_append_of_le_length hn]
      exact .inl ((List.take_prefix n before).trans (List.prefix_append _ _))
    · rw [List.take_of_length_le (by simp; omega)]
      exact .inr ⟨before, last, word, after, rfl, rfl, h⟩

/-- Words that other words come before open what they open there. -/
theorem Opens.append_left {kept all : List String} (h : Opens kept all) (before : List String) :
    Opens (before ++ kept) (before ++ all) := by
  rcases h with h | ⟨inner, last, word, after, rfl, rfl, h⟩
  · exact .inl ((List.prefix_append_right_inj before).2 h)
  · exact .inr ⟨before ++ inner, last, word, after, by simp, by simp, h⟩

variable {separates : Char → Bool}

/-- Behind a gap the words begin anew. -/
theorem words_append_of_getLast? {start : List Char}
    (h : ∀ c ∈ start.getLast?, separates c = true) (cs : List Char) :
    words separates (start ++ cs) = words separates start ++ words separates cs := by
  rcases List.eq_nil_or_concat start with rfl | ⟨front, c, rfl⟩
  · simp
  · rw [List.concat_eq_append] at h ⊢
    have hc : separates c = true := h c (by simp)
    rw [List.append_assoc, List.singleton_append, words_append_cons hc, words_append_cons hc,
      words_nil, List.append_nil]

/-- A text ends with the letters of a word that may go on behind it, if with any; its other words do
not. -/
theorem exists_unfinished (separates : Char → Bool) (cs : List Char) :
    ∃ start word, cs = start ++ word ∧ (∀ c ∈ start.getLast?, separates c = true) ∧
      ∀ c ∈ word, separates c = false := by
  refine ⟨cs.rdropWhile (!separates ·), cs.rtakeWhile (!separates ·),
    List.rdropWhile_append_rtakeWhile.symm, ?_, ?_⟩
  · intro c hc
    obtain ⟨hne, rfl⟩ := List.mem_getLast?_eq_getLast hc
    simpa using List.rdropWhile_last_not (!separates ·) cs hne
  · intro c hc
    simpa using List.mem_rtakeWhile_imp hc

/-- A word opens the words of any text that goes on behind it. -/
theorem opens_word {word : List Char} (hw : ∀ c ∈ word, separates c = false) (cs : List Char) :
    Opens ((words separates word).map String.ofList)
      ((words separates (word ++ cs)).map String.ofList) := by
  by_cases hne : word = []
  · left
    simp [hne]
  · rw [words_word hne hw, words_append hne hw]
    by_cases hmore : cs.takeWhile (!separates ·) = []
    · left
      simp [hmore]
    · right
      refine ⟨[], String.ofList word, _, _, rfl, rfl, by simpa using hne, ?_, ?_⟩
      · rw [ne_eq, String.ofList_inj]
        simpa using hmore
      · rw [String.toList_ofList, String.toList_ofList]
        exact List.prefix_append _ _

/-- The words of a beginning open the words of the text. -/
theorem opens_blankWords {kept text : String} (h : kept.toList <+: text.toList) :
    Opens (blankWords kept) (blankWords text) := by
  obtain ⟨after, hafter⟩ := h
  obtain ⟨start, word, hkept, hstart, hword⟩ := exists_unfinished isBlank kept.toList
  rw [blankWords, blankWords, ← hafter, hkept, List.append_assoc,
    words_append_of_getLast? hstart, words_append_of_getLast? hstart, List.map_append,
    List.map_append]
  exact (opens_word hword after).append_left _

end Text

/-! ## Cutting -/

/-- What is kept of a line is what fits. -/
theorem cutLine_snd (maxLine : Nat) (text : List Char) :
    (cutLine maxLine text).2 = Text.fitting (maxLine - 1) text := by
  unfold cutLine
  split
  · next hfits => rw [Text.fitting_of_byteLength_le hfits]
  · rfl

/-- Of a line from an editor the longest beginning is kept that ends at a boundary and that there is
room for: the whole line if it fits, and else what the search down to a boundary finds, not more
than three bytes below the room. At blanks, whatever number of words a vector holds, it holds the
first words of the line, but for the last of them, which may only be begun. -/
theorem cut_keeps_longest (maxLine : Nat) (text : String) :
    let room := maxLine - 1
    ∃ kept stop,
      (ReadOutcome.cut maxLine (.ok (.line text))).2 = .ok (.line kept) ∧
      Text.Utf8.encode kept.toList = (Text.Utf8.encode text.toList).take stop ∧
      (Text.isBoundary text.toList stop = true ∧ stop ≤ room ∧
        ∀ other ≤ room, Text.isBoundary text.toList other = true → other ≤ stop) ∧
      (Text.byteLength text.toList ≤ room → kept = text) ∧
      (room < Text.byteLength text.toList →
        room - 3 ≤ stop ∧ Text.boundaryBelow text.toList room = .ok stop) ∧
      ∀ t whole : Tokenizer, t.mode = .whitespace → whole.mode = .whitespace →
        (Text.blankWords text).length ≤ whole.capacity →
        t.tokensOf kept <+: whole.tokensOf text ∨
          ∃ before last word after, t.tokensOf kept = before ++ [last] ∧
            whole.tokensOf text = before ++ word :: after ∧
            last ≠ "" ∧ last ≠ word ∧ last.toList <+: word.toList := by
  intro room
  have hcut : (ReadOutcome.cut maxLine (.ok (.line text))).2 =
      .ok (.line (String.ofList (Text.fitting room text.toList))) := by
    rw [← cutLine_snd]
    rfl
  refine ⟨_, _, hcut, ?_, ⟨Text.isBoundary_fitting room text.toList,
    Text.byteLength_fitting_le room text.toList, ?_⟩, ?_, ?_, ?_⟩
  · rw [String.toList_ofList, Text.encode_fitting]
  · exact fun other hle hother => Text.le_byteLength_fitting hother hle
  · intro hfits
    rw [Text.fitting_of_byteLength_le hfits, String.ofList_toList]
  · intro hlong
    have hleft := Text.room_lt_byteLength_fitting hlong
    exact ⟨by omega, Text.boundaryBelow_eq text.toList room⟩
  · intro t whole ht hwhole hcapacity
    rw [Tokenizer.tokensOf_eq ht, Tokenizer.tokensOf_eq hwhole, List.take_of_length_le hcapacity]
    refine (Text.opens_blankWords ?_).take t.capacity
    rw [String.toList_ofList]
    exact Text.fitting_prefix room text.toList

/-- There is no room for the second byte of the é. -/
example : (ReadOutcome.cut 6 (.ok (.line "ls héllo"))).2 = .ok (.line "ls h") := by
  cbv

end LineShell
