import LineShell.Proofs.Rounds

/-!
# Lines of the input

Chunks are not lines: a line that fills its chunk leaves its newline to the next one. Where no line
is longer than a chunk, a session over bytes still runs the lines of the bytes, each once and as a
whole.
-/

namespace LineShell

/-! ## Lines -/

/-- A text is a last line, or a line and the mark that ends it before another text. -/
theorem lines_induction {α : Type} (mark : α) {motive : List α → Prop}
    (last : ∀ content, mark ∉ content → motive content)
    (line : ∀ content rest, mark ∉ content → motive rest → motive (content ++ mark :: rest))
    (text : List α) : motive text := by
  by_cases h : mark ∈ text
  · obtain ⟨content, rest, rfl, hnl⟩ := List.eq_append_cons_of_mem h
    exact line content rest hnl (lines_induction mark last line rest)
  · exact last text h
termination_by text.length
decreasing_by
  simp_all
  omega

theorem toList_chunkLine (chunk : List UInt8) :
    (chunkLine chunk).toList = Text.Utf8.decodeLossy chunk := by
  rw [chunkLine, String.toList_ofList]

theorem lineBody_chunkLine {content : List UInt8} (hnl : newline ∉ content) :
    lineBody (chunkLine content).toList = Text.Utf8.decodeLossy content := by
  rw [toList_chunkLine, lineBody_of_not_mem]
  exact fun h => hnl (Text.Utf8.newline_mem_decodeLossy.1 h)

namespace Tokenizer

/-- Lines with the same body give the same. -/
theorem tokenize_congr (t : Tokenizer) {a b : String} (h : lineBody a.toList = lineBody b.toList) :
    t.tokenize a = t.tokenize b := by
  simp only [tokenize, h]

/-- The newline behind a line is no part of what it says. -/
theorem tokenize_line (t : Tokenizer) {content : List UInt8} (hnl : newline ∉ content) :
    t.tokenize (chunkLine (content ++ [newline])) = t.tokenize (chunkLine content) := by
  apply tokenize_congr
  rw [lineBody_chunkLine hnl, toList_chunkLine, Text.Utf8.decodeLossy_append_newline,
    Text.Utf8.decodeLossy_nil]
  exact lineBody_append_newline _

/-- Neither nothing nor a newline by itself says anything. -/
theorem tokenize_chunkLine_nil (t : Tokenizer) : t.tokenize (chunkLine []) = none := by
  rw [tokenize_eq_none_iff, lineBody_chunkLine List.not_mem_nil, Text.Utf8.decodeLossy_nil]
  rfl

theorem tokenize_chunkLine_newline (t : Tokenizer) : t.tokenize (chunkLine [newline]) = none :=
  (t.tokenize_line List.not_mem_nil).trans t.tokenize_chunkLine_nil

/-- Chunks say what the lines say that they are cut from, if no line is longer than a chunk. -/
theorem tokenize_chunks (t : Tokenizer) {limit : Nat} (hl : 0 < limit) (bytes : List UInt8)
    (h : ∀ content ∈ bytes.splitOn newline, content.length ≤ limit) :
    (chunks limit bytes).filterMap (fun chunk => t.tokenize (chunkLine chunk)) =
      (bytes.splitOn newline).filterMap fun content => t.tokenize (chunkLine content) := by
  induction bytes using lines_induction newline with
  | last content hnl =>
    rw [List.splitOn_eq_singleton hnl] at h ⊢
    by_cases hne : content = []
    · subst hne
      simp [chunks_nil, tokenize_chunkLine_nil]
    · rw [chunks_last_line hnl (h content (by simp)) hne]
  | line content rest hnl ih =>
    rw [List.splitOn_append_cons_self_of_not_mem hnl] at h ⊢
    have hrest := ih fun c hc => h c (List.mem_cons_of_mem _ hc)
    rcases Nat.lt_or_eq_of_le (h content (by simp)) with hlt | heq
    · rw [chunks_line hnl hlt, List.filterMap_cons, List.filterMap_cons, tokenize_line t hnl, hrest]
    · -- The newline comes by itself, as a chunk that says nothing.
      rw [chunks_full_line hnl heq hl, List.filterMap_cons, List.filterMap_cons, hrest,
        tokenize_chunkLine_newline, List.filterMap_cons]

/-- The first words of a text, and whether it has more. -/
def firstWords (t : Tokenizer) (text : List Char) : List String × Bool :=
  ((t.words text).take t.capacity, decide (t.capacity < (t.words text).length))

/-- What a line says: nothing if it is blank, else its first words. -/
theorem tokenize_chunkLine (t : Tokenizer) {content : List UInt8} (hnl : newline ∉ content) :
    (t.tokenize (chunkLine content)).map (fun args => (args.tokens, args.truncated)) =
      if Text.isAllBlank (Text.Utf8.decodeLossy content) then none
      else some (t.firstWords (Text.Utf8.decodeLossy content)) := by
  cases h : t.tokenize (chunkLine content) with
  | none =>
    rw [tokenize_eq_none_iff, lineBody_chunkLine hnl] at h
    rw [if_pos h, Option.map_none]
  | some args =>
    rw [tokenize_eq_some_iff, lineBody_chunkLine hnl] at h
    obtain ⟨hb, ht, hm⟩ := h
    rw [if_neg (by simp [hb]), Option.map_some, ht, hm]
    rfl

/-- What the lines of some bytes say: the first words of each that is not blank. -/
theorem tokenize_lines (t : Tokenizer) (bytes : List UInt8) :
    ((bytes.splitOn newline).filterMap fun content => t.tokenize (chunkLine content)).map
        (fun args => (args.tokens, args.truncated)) =
      (((bytes.splitOn newline).map Text.Utf8.decodeLossy).filter
        fun text => !Text.isAllBlank text).map t.firstWords := by
  rw [List.map_filterMap]
  induction bytes using lines_induction newline with
  | last content hnl =>
    rw [List.splitOn_eq_singleton hnl, List.filterMap_cons, tokenize_chunkLine t hnl]
    cases h : Text.isAllBlank (Text.Utf8.decodeLossy content) <;> simp [h]
  | line content rest hnl ih =>
    rw [List.splitOn_append_cons_self_of_not_mem hnl, List.filterMap_cons,
      tokenize_chunkLine t hnl, ih]
    cases h : Text.isAllBlank (Text.Utf8.decodeLossy content) <;> simp [h]

end Tokenizer

namespace Session

variable {Dir World : Type}

/-- The vectors that lines give, up to the first that ends a session. -/
theorem commands_taken_lines (t : Tokenizer) (texts : List String) :
    (taken t (texts.map fun text => .ok (.line text))).filterMap (commandOf? t) =
      upTo isExit (texts.filterMap t.tokenize) := by
  induction texts with
  | nil => rfl
  | cons text texts ih =>
    simp only [taken, List.map_cons, List.cons_append] at ih ⊢
    cases ht : t.tokenize text with
    | none =>
      rw [upTo_cons_of_false (by simp [endingOf?, ht]), List.filterMap_cons, ih]
      simp [commandOf?, ht]
    | some args =>
      cases he : isExit args with
      | true =>
        rw [upTo_cons_of_true (by simp [endingOf?, ht, he])]
        simp [commandOf?, ht, upTo_cons_of_true he]
      | false =>
        rw [upTo_cons_of_false (by simp [endingOf?, ht, he]), List.filterMap_cons, ih]
        simp [commandOf?, ht, upTo_cons_of_false he]

/-- A session over bytes whose lines fit into chunks dispatches the first words of each line that is
not blank, in order, up to the first `exit`, with it. -/
theorem dispatches_of_lines (host : Host Dir World) (settings : Settings)
    (hline : 2 ≤ settings.maxLine) (hargs : 2 ≤ settings.maxArgs) (bytes : List UInt8)
    (hfit : ∀ content ∈ bytes.splitOn newline, content.length ≤ settings.maxLine - 1)
    (prompts : Sink) (hp : prompts.IsHealthy) (s : State Dir World) (hs : s.IsHealthy) :
    let source : BufferedSource := { maxLine := settings.maxLine, prompts, input := { bytes } }
    let run := run (.ofSettings host (BufferedSource.lines World) settings) source s
    let texts := ((bytes.splitOn newline).map Text.Utf8.decodeLossy).filter
      fun text => !Text.isAllBlank text
    let words := fun text => (Text.words settings.split.separates text).map String.ofList
    run.events.dispatches.map (fun args => (args.tokens, args.truncated)) =
      upTo (fun vector => vector.1.head? = some "exit")
        (texts.map fun text =>
          ((words text).take (settings.maxArgs - 1),
            decide (settings.maxArgs - 1 < (words text).length))) := by
  intro source run texts words
  let t : Tokenizer := { maxArgs := settings.maxArgs, mode := settings.split }
  have hlimit : chunkLimit settings.maxLine = settings.maxLine - 1 := by
    unfold chunkLimit
    omega
  have hcapacity : t.capacity = settings.maxArgs - 1 := by
    change max (settings.maxArgs - 1) 1 = settings.maxArgs - 1
    omega
  have hpos : 0 < settings.maxLine - 1 := by omega
  have hw : source.Waits settings.maxLine bytes := ⟨hp, rfl, rfl⟩
  obtain ⟨hfollows, -⟩ := run_follows (.ofSettings host (BufferedSource.lines World) settings)
    (BufferedSource.follows settings.maxLine settings.prompt) ⟨bytes, hw, rfl⟩ hs
  have hvectors : run.events.dispatches = upTo isExit
      ((bytes.splitOn newline).filterMap fun content => t.tokenize (chunkLine content)) := by
    have htaken := commands_taken_lines t ((chunks (settings.maxLine - 1) bytes).map chunkLine)
    rw [List.map_map, List.filterMap_map, ← hlimit] at htaken
    rw [← t.tokenize_chunks hpos bytes hfit, ← hlimit]
    exact hfollows.dispatches_eq.trans htaken
  have hexit : ∀ args : ArgumentVector, decide (args.tokens.head? = some "exit") = isExit args := by
    intro args
    simp [ArgumentVector.tokens, isExit]
  rw [hvectors, upTo_map (q := fun vector => decide (vector.1.head? = some "exit")) hexit,
    t.tokenize_lines, ← hcapacity]
  rfl

/-- Five lines: one as long as a chunk, one that is no text, a blank one, an `exit` as long as a
chunk, and a last one without a newline. -/
theorem dispatches_of_lines_five :
    let host : Host Unit Unit :=
      { chdir := fun _ _ _ => (.error (.os 2), ()), launch := fun _ _ _ => (.error (.os 2), ()) }
    let settings : Settings := { maxLine := 5, maxArgs := 2, split := .space }
    let bytes : List UInt8 :=
      [97, 32, 98, 99, 10, 255, 10, 9, 10, 101, 120, 105, 116, 10, 108, 115]
    let s : State Unit Unit := ⟨(), (), .healthy, .healthy⟩
    2 ≤ settings.maxLine ∧ 2 ≤ settings.maxArgs ∧
      (∀ content ∈ bytes.splitOn newline, content.length ≤ settings.maxLine - 1) ∧
      Sink.healthy.IsHealthy ∧ s.IsHealthy ∧
      (run (.ofSettings host (BufferedSource.lines Unit) settings)
          { maxLine := 5, prompts := .healthy, input := { bytes } } s).events.dispatches.map
        (fun args => (args.tokens, args.truncated)) =
        [(["a"], true), (["\uFFFD"], false), (["exit"], false)] := by
  intro host settings bytes s
  have hfit : ∀ content ∈ bytes.splitOn newline, content.length ≤ settings.maxLine - 1 := by
    decide
  have hp := Sink.isHealthy_healthy
  have hs : s.IsHealthy := ⟨hp, hp⟩
  refine ⟨by decide, by decide, hfit, hp, hs, ?_⟩
  rw [dispatches_of_lines host settings (by decide) (by decide) bytes hfit .healthy hp s hs]
  decide +kernel

end Session

end LineShell
