import LineShell.Text.Words

/-!
# Words and the gaps around them

A text can be read in exactly one way as a gap, then words with the gap after each, where only the
two outermost gaps may be empty. The words of that reading are the words of the text.
-/

namespace LineShell.Text

variable {separates : Char → Bool}

/-! ## Words at a separator -/

@[simp] theorem words_nil : words separates [] = [] := by
  simp [words]

/-- No word reaches over a separator. -/
theorem words_append_cons {c : Char} (hc : separates c = true) (xs ys : List Char) :
    words separates (xs ++ c :: ys) = words separates xs ++ words separates ys := by
  simp only [words]
  rw [List.splitOnP_append_cons xs ys hc, List.filter_append]

theorem words_cons {c : Char} (hc : separates c = true) (cs : List Char) :
    words separates (c :: cs) = words separates cs := by
  simpa using words_append_cons hc [] cs

/-- A gap in front of a text adds no word. -/
theorem words_gap_append {gap : List Char} (hg : ∀ c ∈ gap, separates c = true) (cs : List Char) :
    words separates (gap ++ cs) = words separates cs := by
  induction gap with
  | nil => rfl
  | cons c gap ih =>
    rw [List.cons_append, words_cons (hg c (by simp))]
    exact ih fun d hd => hg d (by simp [hd])

theorem words_gap {gap : List Char} (hg : ∀ c ∈ gap, separates c = true) :
    words separates gap = [] := by
  simpa using words_gap_append hg []

/-- A text without separators is one word. -/
theorem words_word {word : List Char} (hne : word ≠ [])
    (hw : ∀ c ∈ word, separates c = false) : words separates word = [word] := by
  rw [words, List.splitOnP_eq_singleton hw]
  simp [hne]

/-- A word ends where a gap begins. -/
theorem words_word_append {word gap : List Char} (hne : word ≠ [])
    (hw : ∀ c ∈ word, separates c = false) (hgne : gap ≠ [])
    (hg : ∀ c ∈ gap, separates c = true) (cs : List Char) :
    words separates (word ++ (gap ++ cs)) = word :: words separates cs := by
  cases gap with
  | nil => exact absurd rfl hgne
  | cons d gap =>
    rw [List.cons_append, words_append_cons (hg d (by simp)), words_word hne hw,
      words_gap_append fun c hc => hg c (by simp [hc])]
    rfl

/-- A word that a text begins with reaches to the next separator. -/
theorem words_append {word : List Char} (hne : word ≠ [])
    (hw : ∀ c ∈ word, separates c = false) (cs : List Char) :
    words separates (word ++ cs) =
      (word ++ cs.takeWhile (!separates ·)) :: words separates (cs.dropWhile (!separates ·)) := by
  have hword : ∀ c ∈ word ++ cs.takeWhile (!separates ·), separates c = false := by
    intro c hc
    rcases List.mem_append.1 hc with hc | hc
    · exact hw c hc
    · simpa using List.all_eq_true.1 List.all_takeWhile c hc
  have hfull : words separates (word ++ cs.takeWhile (!separates ·)) =
      [word ++ cs.takeWhile (!separates ·)] := words_word (by simp [hne]) hword
  have hcs : word ++ cs = word ++ cs.takeWhile (!separates ·) ++ cs.dropWhile (!separates ·) := by
    rw [List.append_assoc, List.takeWhile_append_dropWhile]
  rw [hcs]
  cases hrest : cs.dropWhile (!separates ·) with
  | nil => rw [List.append_nil, hfull, words_nil]
  | cons d rest =>
    have hd : separates d = true := by
      have h := List.head?_dropWhile_not (!separates ·) cs
      simpa [hrest] using h
    rw [words_append_cons hd, hfull, words_cons hd, List.singleton_append]

/-! ## Readings as gaps and words -/

/-- A gap, then words with the gap after each. -/
structure Spacing where
  lead : List Char
  parts : List (List Char × List Char)
  deriving DecidableEq, Repr

namespace Spacing

/-- The text that is read. -/
def text (s : Spacing) : List Char := s.lead ++ s.parts.flatMap fun part => part.1 ++ part.2

/-- The words in order. -/
def words (s : Spacing) : List (List Char) := s.parts.map Prod.fst

/-- Words have no separators and something else, gaps have nothing else, and no two words touch. -/
structure Fits (separates : Char → Bool) (s : Spacing) : Prop where
  lead : ∀ c ∈ s.lead, separates c = true
  nonempty : ∀ part ∈ s.parts, part.1 ≠ []
  word : ∀ part ∈ s.parts, ∀ c ∈ part.1, separates c = false
  gap : ∀ part ∈ s.parts, ∀ c ∈ part.2, separates c = true
  inner : ∀ part ∈ s.parts.dropLast, part.2 ≠ []

/-- What is left of a reading without its first word and what comes before it. -/
theorem Fits.tail {part : List Char × List Char} {lead : List Char}
    {parts : List (List Char × List Char)} (h : Fits separates ⟨lead, part :: parts⟩) :
    Fits separates ⟨[], parts⟩ where
  lead := by simp
  nonempty p hp := h.nonempty p (by simp [hp])
  word p hp := h.word p (by simp [hp])
  gap p hp := h.gap p (by simp [hp])
  inner p hp := by
    apply h.inner p
    cases parts with
    | nil => simp at hp
    | cons q parts => simp only [List.dropLast_cons_cons, List.mem_cons]; exact .inr hp

/-- The gap after a word is there, or there is no further word. -/
theorem Fits.gap_ne_nil {part : List Char × List Char} {lead : List Char}
    {parts : List (List Char × List Char)} (h : Fits separates ⟨lead, part :: parts⟩)
    (hp : parts ≠ []) : part.2 ≠ [] := by
  apply h.inner part
  cases parts with
  | nil => exact absurd rfl hp
  | cons q parts => simp

/-- Behind a word there is a gap, or nothing. -/
theorem Fits.gap_ne_nil_or {part : List Char × List Char} {lead : List Char}
    {parts : List (List Char × List Char)} (h : Fits separates ⟨lead, part :: parts⟩) :
    part.2 ≠ [] ∨ (parts.flatMap fun part => part.1 ++ part.2) = [] := by
  by_cases hp : parts = []
  · exact .inr (by rw [hp, List.flatMap_nil])
  · exact .inl (h.gap_ne_nil hp)

/-- The words of a reading are the words of its text. -/
theorem Fits.words_text {s : Spacing} (h : s.Fits separates) :
    Text.words separates s.text = s.words := by
  obtain ⟨lead, parts⟩ := s
  rw [text, words_gap_append h.lead, words]
  induction parts generalizing lead with
  | nil => simp
  | cons part parts ih =>
    have hrest := ih [] h.tail
    have hne := h.nonempty part (by simp)
    have hw := h.word part (by simp)
    have hg := h.gap part (by simp)
    simp only [List.flatMap_cons, List.append_assoc, List.map_cons]
    by_cases hp : parts = []
    · subst hp
      cases hgap : part.2 with
      | nil => simpa using words_word hne hw
      | cons d gap =>
        have hgne : part.2 ≠ [] := by simp [hgap]
        simpa [hgap] using words_word_append hne hw hgne hg []
    · rw [words_word_append hne hw (h.gap_ne_nil hp) hg]
      exact congrArg _ hrest

/-! ## The one reading of a text -/

/-- A separator in front widens the first gap. -/
def addSeparator (c : Char) (s : Spacing) : Spacing := ⟨c :: s.lead, s.parts⟩

/-- Any other character in front belongs to the first word if that comes first, and else is a word
of its own. -/
def addLetter (c : Char) : Spacing → Spacing
  | ⟨[], (word, gap) :: parts⟩ => ⟨[], (c :: word, gap) :: parts⟩
  | ⟨lead, parts⟩ => ⟨[], ([c], lead) :: parts⟩

/-- The reading of a text. -/
def of (separates : Char → Bool) : List Char → Spacing
  | [] => ⟨[], []⟩
  | c :: cs =>
    if separates c then (of separates cs).addSeparator c else (of separates cs).addLetter c

theorem text_addLetter (c : Char) (s : Spacing) : (s.addLetter c).text = c :: s.text := by
  unfold addLetter
  split <;> simp [text]

theorem text_of (separates : Char → Bool) (cs : List Char) : (of separates cs).text = cs := by
  induction cs with
  | nil => rfl
  | cons c cs ih =>
    rw [of]
    split
    · simpa [addSeparator, text] using ih
    · rw [text_addLetter, ih]

theorem Fits.addSeparator {s : Spacing} (h : s.Fits separates) {c : Char}
    (hc : separates c = true) : (s.addSeparator c).Fits separates where
  lead := by
    intro d hd
    rcases List.mem_cons.1 hd with rfl | hd
    · exact hc
    · exact h.lead d hd
  nonempty := h.nonempty
  word := h.word
  gap := h.gap
  inner := h.inner

theorem Fits.addLetter {s : Spacing} (h : s.Fits separates) {c : Char}
    (hc : separates c = false) : (s.addLetter c).Fits separates := by
  obtain ⟨hlead, hne, hword, hgap, hinner⟩ := h
  unfold Spacing.addLetter
  split
  · next word gap parts =>
    -- The first word grows; its gap, and whether more words follow, stay as they were.
    refine ⟨by simp, ?_, ?_, ?_, ?_⟩
    · simpa using fun p g hp => hne (p, g) (by simp [hp])
    · simp only [List.mem_cons, forall_eq_or_imp] at hword ⊢
      exact ⟨⟨hc, hword.1⟩, hword.2⟩
    · simpa using hgap
    · cases parts with
      | nil => simp
      | cons part parts => simpa using hinner
  · next lead parts hs =>
    refine ⟨by simp, ?_, ?_, ?_, ?_⟩
    · simpa using fun p g hp => hne (p, g) hp
    · simpa [hc] using hword
    · intro part hp
      rcases List.mem_cons.1 hp with rfl | hp
      · exact hlead
      · exact hgap part hp
    · cases parts with
      | nil => simp
      | cons part parts =>
        have hl : lead ≠ [] := by
          rintro rfl
          exact hs part.1 part.2 parts rfl rfl
        simpa [hl] using hinner

theorem fits_of (separates : Char → Bool) (cs : List Char) : (of separates cs).Fits separates := by
  induction cs with
  | nil => exact ⟨by simp [of], by simp [of], by simp [of], by simp [of], by simp [of]⟩
  | cons c cs ih =>
    rw [of]
    split
    · next hc => exact ih.addSeparator hc
    · next hc => exact ih.addLetter (by simpa using hc)

theorem of_gap_append {gap : List Char} (hg : ∀ c ∈ gap, separates c = true) (cs : List Char) :
    of separates (gap ++ cs) = ⟨gap ++ (of separates cs).lead, (of separates cs).parts⟩ := by
  induction gap with
  | nil => rfl
  | cons c gap ih =>
    rw [List.cons_append, of, if_pos (hg c (by simp)), ih fun d hd => hg d (by simp [hd])]
    rfl

/-- A word before a gap, or before the end, is read whole. -/
theorem of_word_append {word : List Char} (hne : word ≠ [])
    (hw : ∀ c ∈ word, separates c = false) {cs : List Char}
    (hcs : (of separates cs).lead = [] → (of separates cs).parts = []) :
    of separates (word ++ cs) =
      ⟨[], (word, (of separates cs).lead) :: (of separates cs).parts⟩ := by
  induction word with
  | nil => exact absurd rfl hne
  | cons c word ih =>
    have hc : ¬ separates c = true := by simp [hw c (by simp)]
    rw [List.cons_append, of, if_neg hc]
    cases word with
    | nil =>
      rw [List.nil_append]
      cases hs : of separates cs with
      | mk lead parts =>
        cases lead with
        | nil =>
          have hp : parts = [] := by simpa [hs] using hcs
          subst hp
          rfl
        | cons d lead => rfl
    | cons d word =>
      rw [ih (by simp) fun e he => hw e (by simp [he])]
      rfl

/-- A text has no other reading than its own. -/
theorem Fits.eq_of {s : Spacing} (h : s.Fits separates) : s = of separates s.text := by
  obtain ⟨lead, parts⟩ := s
  rw [text, of_gap_append h.lead]
  induction parts generalizing lead with
  | nil => simp [of]
  | cons part parts ih =>
    have hrest : of separates (parts.flatMap fun part => part.1 ++ part.2) = ⟨[], parts⟩ :=
      (ih [] h.tail).symm
    have hgap : of separates (part.2 ++ parts.flatMap fun part => part.1 ++ part.2) =
        ⟨part.2, parts⟩ := by
      rw [of_gap_append (h.gap part (by simp)), hrest]
      simp
    rw [List.flatMap_cons, List.append_assoc,
      of_word_append (h.nonempty part (by simp)) (h.word part (by simp)), hgap]
    · simp
    · rw [hgap]
      intro hnil
      exact Classical.byContradiction fun hp => h.gap_ne_nil hp hnil

/-- A text is read as these gaps and words. -/
def Reads (separates : Char → Bool) (cs : List Char) (s : Spacing) : Prop :=
  s.Fits separates ∧ s.text = cs

theorem reads_of (separates : Char → Bool) (cs : List Char) :
    Reads separates cs (of separates cs) :=
  ⟨fits_of separates cs, text_of separates cs⟩

/-- Nothing but the text decides about its gaps and words. -/
theorem Reads.eq_of {cs : List Char} {s : Spacing} (h : Reads separates cs s) :
    s = of separates cs := by
  obtain ⟨hf, rfl⟩ := h
  exact hf.eq_of

end Spacing

theorem words_eq_of (cs : List Char) : words separates cs = (Spacing.of separates cs).words := by
  rw [← (Spacing.fits_of separates cs).words_text, Spacing.text_of]

/-- A word is no empty text and has no separator in it. -/
theorem mem_words {cs word : List Char} (h : word ∈ words separates cs) :
    word ≠ [] ∧ ∀ c ∈ word, separates c = false := by
  have hf := Spacing.fits_of separates cs
  rw [words_eq_of] at h
  obtain ⟨part, hp, rfl⟩ := List.mem_map.1 h
  exact ⟨hf.nonempty part hp, hf.word part hp⟩

/-- Only a text of separators has no words. -/
theorem words_eq_nil_iff {cs : List Char} :
    words separates cs = [] ↔ ∀ c ∈ cs, separates c = true := by
  constructor
  · intro h
    rw [words_eq_of, Spacing.words, List.map_eq_nil_iff] at h
    have htext := Spacing.text_of separates cs
    simp only [Spacing.text, h, List.flatMap_nil, List.append_nil] at htext
    rw [← htext]
    exact (Spacing.fits_of separates cs).lead
  · exact words_gap

end LineShell.Text
