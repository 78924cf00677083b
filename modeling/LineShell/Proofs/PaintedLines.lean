import LineShell.Highlight
import LineShell.Proofs.Tokens

/-!
# Painted lines

Colours leave a line as it was typed but for its words: the first is painted as a command, those
behind it as flags if they begin with a dash, each where it stands. Without the escape sequences the
line is the one that was typed.
-/

namespace LineShell

/-! ## Texts without escape sequences -/

/-- Whether a character may stand between the bracket of an escape sequence and its mark. -/
def isParameter (c : Char) : Bool := c.isDigit || c == ';'

/-- The text behind an escape sequence whose first character has been taken; `none` if what stands
there is no more than a character. -/
def afterSequence? : List Char → Option (List Char)
  | '[' :: rest =>
    match rest.dropWhile isParameter with
    | 'm' :: after => some after
    | _ => none
  | _ => none

theorem length_of_afterSequence? {cs after : List Char} (h : afterSequence? cs = some after) :
    after.length < cs.length := by
  unfold afterSequence? at h
  split at h
  · next rest =>
    have hle := (List.dropWhile_suffix isParameter (l := rest)).length_le
    split at h
    · next hrest =>
      cases h
      rw [hrest, List.length_cons] at hle
      rw [List.length_cons]
      omega
    · cases h
  · cases h

/-- A text without its escape sequences. -/
def withoutSequences : List Char → List Char
  | [] => []
  | c :: rest =>
    if c = escapeCharacter then
      match _h : afterSequence? rest with
      | some after => withoutSequences after
      | none => c :: withoutSequences rest
    else c :: withoutSequences rest
termination_by cs => cs.length
decreasing_by
  · have hlt := length_of_afterSequence? _h
    rw [List.length_cons]
    omega
  · simp
  · simp

/-- Parameters reach to the mark, so that a sequence goes as a whole. -/
theorem withoutSequences_sequence {parameters : String}
    (h : parameters.toList.all isParameter = true) (cs : List Char) :
    withoutSequences (escapeSequence parameters ++ cs) = withoutSequences cs := by
  have hmark : (parameters.toList ++ 'm' :: cs).dropWhile isParameter = 'm' :: cs := by
    rw [List.dropWhile_append_of_pos (List.all_eq_true.1 h)]
    rfl
  have hafter : afterSequence? ('[' :: (parameters.toList ++ 'm' :: cs)) = some cs := by
    simp only [afterSequence?, hmark]
  have hsequence : escapeSequence parameters ++ cs =
      escapeCharacter :: '[' :: (parameters.toList ++ 'm' :: cs) := by
    simp [escapeSequence]
  rw [hsequence, withoutSequences, if_pos rfl]
  split
  · next after h => rw [Option.some.inj (h.symm.trans hafter)]
  · next h => cases h.symm.trans hafter

/-- A text without escape characters has no sequence to lose. -/
theorem withoutSequences_append {text : List Char} (h : escapeCharacter ∉ text) (cs : List Char) :
    withoutSequences (text ++ cs) = text ++ withoutSequences cs := by
  induction text with
  | nil => rfl
  | cons c text ih =>
    rw [List.mem_cons, not_or] at h
    rw [List.cons_append, withoutSequences, if_neg (Ne.symm h.1), ih h.2]
    rfl

theorem Colour.isParameter_parameters (colour : Colour) :
    colour.parameters.toList.all isParameter = true := by
  cases colour <;> decide +kernel

/-- Paint is gone with the sequences before and behind it. -/
theorem withoutSequences_paint (style : Style) {text : List Char} (h : escapeCharacter ∉ text)
    (cs : List Char) :
    withoutSequences (style.paint text ++ cs) = text ++ withoutSequences cs := by
  have hplain : "0".toList.all isParameter = true := by decide +kernel
  have hbold : "1".toList.all isParameter = true := by decide +kernel
  have htext : withoutSequences (text ++ (escapeSequence "0" ++ cs)) =
      text ++ withoutSequences cs := by
    rw [withoutSequences_append h, withoutSequences_sequence hplain]
  rw [Style.paint, List.append_assoc, List.append_assoc, List.append_assoc,
    withoutSequences_sequence style.foreground.isParameter_parameters]
  cases style.bold with
  | true => rw [if_pos rfl, withoutSequences_sequence hbold, htext]
  | false => exact htext

namespace Highlight

/-! ## Painting a reading -/

/-- A word behind the command: a flag stands out. -/
def showArgument (word : List Char) : List Char :=
  if word.head? = some '-' then flagStyle.paint word else word

/-- A line that is read as gaps and words, each word shown where it stands. The first is its
command. -/
def showReading : Text.Spacing → List Char
  | ⟨lead, []⟩ => lead
  | ⟨lead, (command, gap) :: arguments⟩ =>
    lead ++ commandStyle.paint command ++ gap ++
      arguments.flatMap fun part => showArgument part.1 ++ part.2

theorem paintWord_command {word : List Char} (hne : word ≠ []) :
    paintWord false word = commandStyle.paint word := by
  simp [paintWord, hne]

theorem paintWord_argument {word : List Char} (hne : word ≠ []) :
    paintWord true word = showArgument word := by
  simp [paintWord, showArgument, hne]

/-- Blanks stay, and say nothing about the command. -/
theorem paintFrom_gap_append (seen : Bool) {gap : List Char}
    (hg : ∀ c ∈ gap, Text.isBlank c = true) (cs : List Char) :
    paintFrom seen [] (gap ++ cs) = gap ++ paintFrom seen [] cs := by
  induction gap with
  | nil => rfl
  | cons c gap ih =>
    have hrest := ih fun d hd => hg d (by simp [hd])
    rw [List.cons_append, paintFrom, if_pos (hg c (by simp))]
    simpa [paintWord] using hrest

/-- A word is taken in before it is painted. -/
theorem paintFrom_word_append (seen : Bool) {word : List Char}
    (hw : ∀ c ∈ word, Text.isBlank c = false) (typed cs : List Char) :
    paintFrom seen typed (word ++ cs) = paintFrom seen (word.reverse ++ typed) cs := by
  induction word generalizing typed with
  | nil => rfl
  | cons c word ih =>
    rw [List.cons_append, paintFrom, if_neg (by simp [hw c (by simp)]),
      ih (fun d hd => hw d (by simp [hd])), List.reverse_cons, List.append_assoc]
    rfl

/-- A word is painted once the gap behind it is met, and what comes then stands behind a command. -/
theorem paintFrom_part (seen : Bool) {word gap : List Char} (hne : word ≠ [])
    (hw : ∀ c ∈ word, Text.isBlank c = false) (hg : ∀ c ∈ gap, Text.isBlank c = true)
    {cs : List Char} (hend : gap ≠ [] ∨ cs = []) :
    paintFrom seen [] (word ++ (gap ++ cs)) =
      paintWord seen word ++ (gap ++ paintFrom true [] cs) := by
  rw [paintFrom_word_append seen hw, List.append_nil]
  cases gap with
  | nil =>
    have hcs : cs = [] := by simpa using hend
    simp [hcs, paintFrom, paintWord]
  | cons c gap =>
    have hgap : ∀ d ∈ gap, Text.isBlank d = true := fun d hd => hg d (by simp [hd])
    have hseen : (seen || !word.reverse.isEmpty) = true := by
      simp [List.isEmpty_eq_false_iff.2 hne]
    rw [List.cons_append, paintFrom, if_pos (hg c (by simp)), hseen,
      paintFrom_gap_append true hgap, List.reverse_reverse, List.cons_append]

/-- What is left of a reading behind the command is painted as arguments. -/
theorem paintFrom_arguments {parts : List (List Char × List Char)}
    (h : Text.Spacing.Fits Text.isBlank ⟨[], parts⟩) :
    paintFrom true [] (parts.flatMap fun part => part.1 ++ part.2) =
      parts.flatMap fun part => showArgument part.1 ++ part.2 := by
  induction parts with
  | nil => rfl
  | cons part parts ih =>
    have hne := h.nonempty part (by simp)
    rw [List.flatMap_cons, List.append_assoc,
      paintFrom_part true hne (h.word part (by simp)) (h.gap part (by simp)) h.gap_ne_nil_or,
      ih h.tail, paintWord_argument hne, List.flatMap_cons, List.append_assoc]

/-- A reading is painted as it is shown. -/
theorem paintFrom_text {s : Text.Spacing} (h : s.Fits Text.isBlank) :
    paintFrom false [] s.text = showReading s := by
  obtain ⟨lead, parts⟩ := s
  rw [Text.Spacing.text, paintFrom_gap_append false h.lead]
  cases parts with
  | nil => simp [paintFrom, paintWord, showReading]
  | cons part parts =>
    have hne := h.nonempty part (by simp)
    rw [List.flatMap_cons, List.append_assoc,
      paintFrom_part false hne (h.word part (by simp)) (h.gap part (by simp)) h.gap_ne_nil_or,
      paintWord_command hne, paintFrom_arguments h.tail, showReading]
    simp only [List.append_assoc]

/-! ## Taking the paint off -/

theorem withoutSequences_showArgument {word : List Char} (h : escapeCharacter ∉ word)
    (cs : List Char) :
    withoutSequences (showArgument word ++ cs) = word ++ withoutSequences cs := by
  unfold showArgument
  split
  · exact withoutSequences_paint flagStyle h cs
  · exact withoutSequences_append h cs

theorem withoutSequences_arguments {parts : List (List Char × List Char)}
    (h : escapeCharacter ∉ parts.flatMap fun part => part.1 ++ part.2) :
    withoutSequences (parts.flatMap fun part => showArgument part.1 ++ part.2) =
      parts.flatMap fun part => part.1 ++ part.2 := by
  induction parts with
  | nil => rw [List.flatMap_nil, List.flatMap_nil, withoutSequences]
  | cons part parts ih =>
    simp only [List.flatMap_cons, List.mem_append, not_or] at h
    obtain ⟨⟨hword, hgap⟩, hrest⟩ := h
    rw [List.flatMap_cons, List.flatMap_cons, List.append_assoc, List.append_assoc,
      withoutSequences_showArgument hword, withoutSequences_append hgap, ih hrest]

/-- A reading that is shown is the text that is read, with sequences put in. -/
theorem withoutSequences_showReading {s : Text.Spacing} (h : escapeCharacter ∉ s.text) :
    withoutSequences (showReading s) = s.text := by
  obtain ⟨lead, _ | ⟨⟨command, gap⟩, arguments⟩⟩ := s
  · have hescape : escapeCharacter ∉ lead := by simpa [Text.Spacing.text] using h
    have hlead := withoutSequences_append hescape []
    rw [List.append_nil, withoutSequences] at hlead
    simpa [showReading, Text.Spacing.text] using hlead
  · simp only [Text.Spacing.text, List.flatMap_cons, List.mem_append, not_or] at h
    obtain ⟨hlead, ⟨hcommand, hgap⟩, hrest⟩ := h
    rw [showReading, List.append_assoc, List.append_assoc, withoutSequences_append hlead,
      withoutSequences_paint commandStyle hcommand, withoutSequences_append hgap,
      withoutSequences_arguments hrest]
    simp [Text.Spacing.text]

/-- A line with colours is its one reading with each word painted where it stands: the first as a
command, which is the one that the line gives, those behind it as arguments. The gaps stay, a line
of nothing but blanks stays, and without the sequences any line is there again that had none to
begin with. A command is bold and cyan, a flag is yellow, and the plain style follows on each.
Without colours a line stays as it is. -/
theorem line_shows_words (text : String) :
    ∃ s : Text.Spacing, Text.Spacing.Reads Text.isBlank text.toList s ∧
      (∀ s', Text.Spacing.Reads Text.isBlank text.toList s' → s' = s) ∧
      (∀ t : Tokenizer, t.mode = .whitespace → s.words.length ≤ t.capacity →
        t.tokensOf text = s.words.map String.ofList) ∧
      (line true text).toList = showReading s ∧
      (∀ t : Tokenizer, t.mode = .whitespace →
        (t.tokenize text).map ArgumentVector.command = s.words.head?.map String.ofList) ∧
      ((∀ c ∈ text.toList, Text.isBlank c = true) → line true text = text) ∧
      (escapeCharacter ∉ text.toList →
        withoutSequences (line true text).toList = text.toList) ∧
      (∀ word, commandStyle.paint word = "\x1b[36m\x1b[1m".toList ++ word ++ "\x1b[0m".toList ∧
        flagStyle.paint word = "\x1b[33m".toList ++ word ++ "\x1b[0m".toList) ∧
      line false text = text := by
  have hreads := Text.Spacing.reads_of Text.isBlank text.toList
  have hfits := hreads.1
  have htext := hreads.2
  have hwords : Text.blankWords text =
      (Text.Spacing.of Text.isBlank text.toList).words.map String.ofList := by
    rw [Text.blankWords, Text.words_eq_of]
  have hline : (line true text).toList =
      showReading (Text.Spacing.of Text.isBlank text.toList) := by
    rw [← paintFrom_text hfits, htext]
    simp [line]
  refine ⟨_, hreads, fun s' hs' => hs'.eq_of, ?_, hline, ?_, ?_, ?_, fun _ => ⟨rfl, rfl⟩, rfl⟩
  · intro t ht hcapacity
    rw [Tokenizer.tokensOf_eq ht, hwords, List.take_of_length_le (by simpa using hcapacity)]
  · intro t ht
    rw [Tokenizer.command_eq_head? ht, hwords, List.head?_map]
  · intro hblank
    have hpaint := paintFrom_gap_append false hblank []
    rw [List.append_nil] at hpaint
    rw [← String.toList_inj]
    simpa [line, paintFrom, paintWord] using hpaint
  · intro hescape
    rw [hline, withoutSequences_showReading (by rwa [htext]), htext]

example : line true " ls\t-a  b-c\n" =
    " \x1b[36m\x1b[1mls\x1b[0m\t\x1b[33m-a\x1b[0m  b-c\n" := by
  decide +kernel

end Highlight

end LineShell
