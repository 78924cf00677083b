import LineShell.Proofs.Tokens
import Mathlib.Data.List.Basic

/-!
# Words at spaces and words at blanks

Each space is a blank, so what separates words at spaces separates them at blanks too, and a word at
spaces is a gap, words and the gaps behind them at blanks. A line that both modes keep whole gives
the same in both exactly if no word at spaces has a blank in it.
-/

namespace LineShell

namespace Text

/-! ## More separators -/

variable {separates more : Char → Bool}

/-- Words end at a gap, whatever stands behind it. -/
theorem words_append_gap_append {gap : List Char} (hne : gap ≠ [])
    (hg : ∀ c ∈ gap, separates c = true) (xs ys : List Char) :
    words separates (xs ++ (gap ++ ys)) = words separates xs ++ words separates ys := by
  cases gap with
  | nil => exact absurd rfl hne
  | cons c gap =>
    rw [List.cons_append, words_append_cons (hg c (by simp)),
      words_gap_append fun d hd => hg d (by simp [hd])]

theorem words_append_gap {gap : List Char} (hg : ∀ c ∈ gap, separates c = true)
    (xs : List Char) : words separates (xs ++ gap) = words separates xs := by
  by_cases hne : gap = []
  · rw [hne, List.append_nil]
  · simpa using words_append_gap_append hne hg xs []

/-- Where more separates, each word of a reading falls into words, and its gaps stay gaps. -/
theorem Spacing.Fits.words_more {s : Spacing} (hs : s.Fits separates)
    (hmore : ∀ c, separates c = true → more c = true) :
    Text.words more s.text = s.words.flatMap (Text.words more) := by
  obtain ⟨lead, parts⟩ := s
  rw [text, words_gap_append fun c hc => hmore c (hs.lead c hc), words]
  induction parts generalizing lead with
  | nil => simp
  | cons part parts ih =>
    have hrest := ih [] hs.tail
    have hgap : ∀ c ∈ part.2, more c = true := fun c hc => hmore c (hs.gap part (by simp) c hc)
    rw [List.flatMap_cons, List.map_cons, List.flatMap_cons, ← hrest, List.append_assoc]
    by_cases hp : parts = []
    · simp [hp, words_append_gap hgap]
    · exact words_append_gap_append (hs.gap_ne_nil hp) hgap _ _

/-- The words where more separates are the words of the words, in order. -/
theorem words_eq_flatMap_words (hmore : ∀ c, separates c = true → more c = true)
    (cs : List Char) : words more cs = (words separates cs).flatMap (words more) := by
  have h := (Spacing.fits_of separates cs).words_more hmore
  rwa [Spacing.text_of, ← words_eq_of] at h

/-! ## The words of a token -/

theorem blankWords_ofList (cs : List Char) :
    blankWords (String.ofList cs) = (words isBlank cs).map String.ofList := by
  rw [blankWords, String.toList_ofList]

theorem blankWords_eq_nil_iff {text : String} :
    blankWords text = [] ↔ ∀ c ∈ text.toList, isBlank c = true := by
  rw [blankWords, List.map_eq_nil_iff, words_eq_nil_iff]

theorem blankWords_of_no_blank {text : String} (hne : text ≠ "")
    (h : ∀ c ∈ text.toList, isBlank c = false) : blankWords text = [text] := by
  rw [blankWords, words_word (by simpa using hne) h, List.map_singleton, String.ofList_toList]

end Text

/-! ## The two modes -/

namespace Tokenizer

/-- A vector that is not cut has every word of its line. -/
theorem tokens_of_not_truncated {t : Tokenizer} {line : String} {args : ArgumentVector}
    (h : t.tokenize line = some args) (hwhole : args.truncated = false) :
    args.tokens = t.words (lineBody line.toList) := by
  obtain ⟨-, htokens, htruncated⟩ := tokenize_eq_some_iff.1 h
  rw [htokens]
  apply List.take_of_length_le
  rw [hwhole] at htruncated
  simpa using htruncated.symm

/-- The words at blanks are the words at blanks of the words at spaces. -/
theorem words_whitespace (maxArgs : Nat) (body : List Char) :
    words ⟨maxArgs, .whitespace⟩ body = (words ⟨maxArgs, .space⟩ body).flatMap Text.blankWords := by
  have hsplit : Text.words Text.isBlank body =
      (Text.words SplitMode.space.separates body).flatMap (Text.words Text.isBlank) :=
    Text.words_eq_flatMap_words (fun c => SplitMode.isBlank_of_separates) body
  rw [words_eq _ rfl, hsplit, List.map_flatMap, words, List.flatMap_map]
  simp only [Text.blankWords_ofList]

/-- Both modes find the same lines blank. Where neither leaves a word over, the tokens at blanks are
the words of the tokens at spaces, to which a token of nothing but blanks adds none, so that the
tokens are the same if and only if none at spaces has a blank in it. -/
theorem tokens_of_modes (maxArgs : Nat) (line : String)
    (hwhole : ∀ mode args, tokenize ⟨maxArgs, mode⟩ line = some args → args.truncated = false) :
    (tokenize ⟨maxArgs, .space⟩ line = none ↔ tokenize ⟨maxArgs, .whitespace⟩ line = none) ∧
    ∀ atSpaces atBlanks, tokenize ⟨maxArgs, .space⟩ line = some atSpaces →
      tokenize ⟨maxArgs, .whitespace⟩ line = some atBlanks →
      atBlanks.tokens = atSpaces.tokens.flatMap Text.blankWords ∧
      (∀ token ∈ atSpaces.tokens,
        (Text.blankWords token = [] ↔ ∀ c ∈ token.toList, Text.isBlank c = true)) ∧
      (atBlanks.tokens = atSpaces.tokens ↔
        ∀ token ∈ atSpaces.tokens, ∀ c ∈ token.toList, Text.isBlank c = false) := by
  constructor
  · rw [tokenize_eq_none_iff, tokenize_eq_none_iff]
  · intro atSpaces atBlanks hspaces hblanks
    have htokens : atBlanks.tokens = atSpaces.tokens.flatMap Text.blankWords := by
      rw [tokens_of_not_truncated hblanks (hwhole _ _ hblanks),
        tokens_of_not_truncated hspaces (hwhole _ _ hspaces), words_whitespace]
    refine ⟨htokens, fun token _ => Text.blankWords_eq_nil_iff, ?_, ?_⟩
    · intro heq token htoken
      rw [← heq] at htoken
      exact ((tokens_of_tokenize hblanks).2 token htoken).2
    · intro hno
      calc atBlanks.tokens = atSpaces.tokens.flatMap Text.blankWords := htokens
        _ = atSpaces.tokens.flatMap fun token => [token] := by
          refine List.flatMap_congr fun token htoken => ?_
          have hne : token ≠ "" := ((tokens_of_tokenize hspaces).2 token htoken).1
          exact Text.blankWords_of_no_blank hne (hno token htoken)
        _ = atSpaces.tokens := List.flatMap_singleton' _

/-- Three words at spaces: one with a tab in it, one that is a tab, and one with a newline that is
not the last of the line. -/
theorem tokens_of_modes_three :
    (∀ mode args, tokenize ⟨5, mode⟩ "a\tb \t c\nd\n" = some args → args.truncated = false) ∧
      tokenize ⟨5, .space⟩ "a\tb \t c\nd\n" = some ⟨"a\tb", ["\t", "c\nd"], false⟩ ∧
      ∃ atBlanks, tokenize ⟨5, .whitespace⟩ "a\tb \t c\nd\n" = some atBlanks ∧
        atBlanks.tokens = ["a", "b", "c", "d"] := by
  have hspaces : tokenize ⟨5, .space⟩ "a\tb \t c\nd\n" = some ⟨"a\tb", ["\t", "c\nd"], false⟩ := by
    decide +kernel
  have hblanks :
      tokenize ⟨5, .whitespace⟩ "a\tb \t c\nd\n" = some ⟨"a", ["b", "c", "d"], false⟩ := by
    decide +kernel
  have hwhole : ∀ mode args,
      tokenize ⟨5, mode⟩ "a\tb \t c\nd\n" = some args → args.truncated = false := by
    intro mode args h
    cases mode with
    | space => cases hspaces.symm.trans h; rfl
    | whitespace => cases hblanks.symm.trans h; rfl
  obtain ⟨-, h⟩ := tokens_of_modes 5 "a\tb \t c\nd\n" hwhole
  obtain ⟨htokens, -, -⟩ := h _ _ hspaces hblanks
  refine ⟨hwhole, hspaces, _, hblanks, htokens.trans ?_⟩
  decide +kernel

end Tokenizer

end LineShell
