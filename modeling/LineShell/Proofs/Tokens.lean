import LineShell.Line.Arguments
import LineShell.Proofs.Words

/-!
# The tokens of a line

A line that is not blank gives a vector whose tokens are the first words of its one reading as gaps
and words, and the mark of a cut vector says that there were more.
-/

namespace LineShell

/-- A line has one newline at its end to lose, or has none and loses nothing. -/
theorem lineBody_cases (line : List Char) :
    line = lineBody line ++ ['\n'] ∨ line = lineBody line ∧ line.getLast? ≠ some '\n' := by
  unfold lineBody
  split
  · next h =>
    left
    obtain ⟨start, rfl⟩ := List.getLast?_eq_some_iff.1 h
    simp
  · next h => exact .inr ⟨rfl, h⟩

@[simp] theorem lineBody_append_newline (body : List Char) : lineBody (body ++ ['\n']) = body := by
  simp [lineBody]

theorem lineBody_of_not_mem {body : List Char} (h : '\n' ∉ body) : lineBody body = body := by
  unfold lineBody
  split
  · next hl => exact absurd (List.mem_of_getLast? hl) h
  · rfl

/-- The words of a text between blanks. -/
def Text.blankWords (text : String) : List String :=
  (words isBlank text.toList).map String.ofList

namespace Tokenizer

theorem capacity_pos (t : Tokenizer) : 0 < t.capacity := by
  unfold capacity
  omega

/-- The words of a text that is not blank: some character of it belongs to one, in either mode. -/
theorem words_ne_nil (t : Tokenizer) {body : List Char} (h : Text.isAllBlank body = false) :
    t.words body ≠ [] := by
  intro hn
  rw [words, List.map_eq_nil_iff, Text.words_eq_nil_iff] at hn
  have hb : Text.isAllBlank body = true :=
    List.all_eq_true.2 fun c hc => SplitMode.isBlank_of_separates (hn c hc)
  rw [hb] at h
  cases h

theorem tokenize_eq_none_iff {t : Tokenizer} {line : String} :
    t.tokenize line = none ↔ Text.isAllBlank (lineBody line.toList) = true := by
  cases hb : Text.isAllBlank (lineBody line.toList) with
  | true => simp [tokenize, hb]
  | false =>
    have hn := t.words_ne_nil hb
    have hc := t.capacity_pos
    cases hw : t.words (lineBody line.toList) with
    | nil => exact absurd hw hn
    | cons command rest =>
      obtain ⟨n, hn⟩ : ∃ n, t.capacity = n + 1 := ⟨t.capacity - 1, by omega⟩
      simp [tokenize, hb, hw, hn, ArgumentVector.ofTokens?]

theorem tokenize_eq_some_iff {t : Tokenizer} {line : String} {args : ArgumentVector} :
    t.tokenize line = some args ↔
      Text.isAllBlank (lineBody line.toList) = false ∧
        args.tokens = (t.words (lineBody line.toList)).take t.capacity ∧
        args.truncated = decide (t.capacity < (t.words (lineBody line.toList)).length) := by
  cases hb : Text.isAllBlank (lineBody line.toList) with
  | true => simp [tokenize, hb]
  | false =>
    simp only [tokenize, hb, Bool.false_eq_true, ↓reduceIte, ArgumentVector.ofTokens?_eq_some,
      true_and]
    exact and_congr eq_comm Iff.rfl

/-- At blanks, a newline at the end of a line is no part of a word. -/
theorem words_lineBody {t : Tokenizer} (ht : t.mode = .whitespace) (line : List Char) :
    t.words (lineBody line) = t.words line := by
  rcases lineBody_cases line with h | ⟨h, -⟩
  · have hwords : t.words (lineBody line ++ ['\n']) = t.words (lineBody line) := by
      rw [words, words, Text.words_append_cons (by rw [ht]; rfl), Text.words_nil, List.append_nil]
    exact hwords.symm.trans (congrArg t.words h.symm)
  · exact congrArg t.words h.symm

theorem words_eq (t : Tokenizer) (ht : t.mode = .whitespace) (line : List Char) :
    t.words line = (Text.words Text.isBlank line).map String.ofList := by
  rw [words, ht]
  rfl

/-- The tokens kept of a line; a blank one has none. -/
def tokensOf (t : Tokenizer) (line : String) : List String :=
  (t.tokenize line).elim [] ArgumentVector.tokens

/-- At blanks, the tokens of a line are its first words, blank or not. -/
theorem tokensOf_eq {t : Tokenizer} (ht : t.mode = .whitespace) (line : String) :
    t.tokensOf line = (Text.blankWords line).take t.capacity := by
  have hwords : t.words (lineBody line.toList) = Text.blankWords line := by
    rw [words_lineBody ht, words_eq t ht, Text.blankWords]
  rw [tokensOf, ← hwords]
  cases h : t.tokenize line with
  | none =>
    have hblank := List.all_eq_true.1 (tokenize_eq_none_iff.1 h)
    rw [words_eq t ht, Text.words_gap hblank, List.map_nil, List.take_nil]
    rfl
  | some args => exact (tokenize_eq_some_iff.1 h).2.1

/-- At blanks, the command of a line is its first word. -/
theorem command_eq_head? {t : Tokenizer} (ht : t.mode = .whitespace) (line : String) :
    (t.tokenize line).map ArgumentVector.command = (Text.blankWords line).head? := by
  have hhead : (t.tokenize line).map ArgumentVector.command = (t.tokensOf line).head? := by
    unfold tokensOf
    cases t.tokenize line <;> rfl
  have hpos : t.capacity ≠ 0 := Nat.ne_of_gt t.capacity_pos
  rw [hhead, tokensOf_eq ht, List.head?_take, if_neg hpos]

/-- What every vector made from a line has: some tokens, no more than are kept, and each a word. -/
theorem tokens_of_tokenize {t : Tokenizer} {line : String} {args : ArgumentVector}
    (h : t.tokenize line = some args) :
    args.size ≤ t.capacity ∧
      ∀ token ∈ args.tokens, token ≠ "" ∧ ∀ c ∈ token.toList, t.mode.separates c = false := by
  obtain ⟨-, ht, -⟩ := tokenize_eq_some_iff.1 h
  constructor
  · rw [ArgumentVector.size, ht]
    exact List.length_take_le _ _
  · intro token hm
    rw [ht] at hm
    obtain ⟨word, hw, rfl⟩ := List.mem_map.1 (List.mem_of_mem_take hm)
    obtain ⟨hne, hs⟩ := Text.mem_words hw
    exact ⟨by simpa using hne, by simpa using hs⟩

/-- A line is blank and gives nothing, or there is one way to read it as gaps and words, and it
gives its first words. -/
theorem tokenize_first_words (t : Tokenizer) (line : String) :
    (line.toList = (body line).toList ++ ['\n'] ∨
      line = body line ∧ line.toList.getLast? ≠ some '\n') ∧
    match t.tokenize line with
    | none => ∀ c ∈ (body line).toList, Text.isBlank c = true
    | some args =>
      (∃ c ∈ (body line).toList, Text.isBlank c = false) ∧
      (∃ s : Text.Spacing,
        Text.Spacing.Reads t.mode.separates (body line).toList s ∧
        (∀ s' : Text.Spacing, Text.Spacing.Reads t.mode.separates (body line).toList s' → s' = s) ∧
        1 ≤ s.words.length ∧
        args.tokens = (s.words.map String.ofList).take (max (t.maxArgs - 1) 1) ∧
        (args.truncated = true ↔ max (t.maxArgs - 1) 1 < s.words.length)) ∧
      1 ≤ args.size ∧ args.size ≤ max (t.maxArgs - 1) 1 ∧ args.get? args.size = none ∧
      ∀ token ∈ args.tokens, token ≠ "" ∧ ∀ c ∈ token.toList, t.mode.separates c = false := by
  have hbody : (body line).toList = lineBody line.toList := by simp [body]
  constructor
  · rw [hbody]
    rcases lineBody_cases line.toList with h | ⟨h, hl⟩
    · exact .inl h
    · refine .inr ⟨?_, hl⟩
      rw [body, ← h, String.ofList_toList]
  · rw [hbody]
    cases h : t.tokenize line with
    | none => simpa [Text.isAllBlank] using tokenize_eq_none_iff.1 h
    | some args =>
      obtain ⟨hb, ht, hm⟩ := tokenize_eq_some_iff.1 h
      obtain ⟨hle, htokens⟩ := tokens_of_tokenize h
      have hw : t.words (lineBody line.toList) =
          (Text.Spacing.of t.mode.separates (lineBody line.toList)).words.map String.ofList := by
        rw [words, Text.words_eq_of]
      have hn : 1 ≤ (t.words (lineBody line.toList)).length :=
        List.length_pos_iff.2 (t.words_ne_nil hb)
      refine ⟨by simpa [Text.isAllBlank] using hb, ?_, ?_, hle, args.get?_size, htokens⟩
      · refine ⟨_, Text.Spacing.reads_of _ _, fun s hs => hs.eq_of, ?_, ?_, ?_⟩
        · simpa [hw] using hn
        · rw [ht, hw]
          rfl
        · rw [hm, hw, List.length_map, decide_eq_true_iff]
          rfl
      · exact List.length_pos_iff.2 args.tokens_ne_nil

end Tokenizer

end LineShell
