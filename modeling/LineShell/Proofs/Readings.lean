import LineShell.Line.Source
import LineShell.Proofs.Chunks
import LineShell.Proofs.Decoding

/-!
# What sources give

Calling a source of bytes gives its chunks one after the other, decoded, and from then on says that
the input is over. Each call prompts once.
-/

namespace LineShell

variable {Source World : Type}

/-- The reading of a call, after a number of calls before it. -/
def LineSource.call (s : LineSource Source World) (prompt : String) :
    (before : Nat) → Source → World → Reading Source World
  | 0, source, world => s.read prompt source world
  | n + 1, source, world =>
    let first := s.read prompt source world
    s.call prompt n first.source first.world

theorem LineSource.readAll_of_continues {s : LineSource Source World} {prompt : String}
    {source : Source} {world : World}
    (h : (s.read prompt source world).continues = true) :
    s.readAll prompt source world = s.read prompt source world ::
      s.readAll prompt (s.read prompt source world).source (s.read prompt source world).world := by
  rw [readAll, dif_pos h]

theorem LineSource.readAll_of_not_continues {s : LineSource Source World} {prompt : String}
    {source : Source} {world : World}
    (h : (s.read prompt source world).continues = false) :
    s.readAll prompt source world = [s.read prompt source world] := by
  rw [readAll, dif_neg (by simp [h])]

/-- A source follows lists of outcomes: each call prompts once and gives the first outcome, or says
that the input is over if there is none. The relation says which list a source follows. -/
def LineSource.Follows (lines : LineSource Source World) (prompt : String)
    (R : Source → List (Except ShellError ReadOutcome) → Prop) : Prop :=
  ∀ source outcomes world, R source outcomes →
    (lines.read prompt source world).events = [.prompted prompt] ∧
    (lines.read prompt source world).outcome = outcomes.headD (.ok .endOfInput) ∧
    R (lines.read prompt source world).source outcomes.tail ∧
    (lines.read prompt source world).world = world

/-- A script follows its own outcomes. -/
theorem Script.follows (prompt : String) :
    (Script.lines World).Follows prompt fun s outcomes =>
      s.prompts.IsHealthy ∧ s.outcomes = outcomes := by
  rintro s _ world ⟨hp, rfl⟩
  obtain ⟨htaken, hfault, hsink⟩ := hp.deliver prompt
  simp only [Script.lines, Script.read, htaken, hfault, true_and, and_true]
  exact hsink

/-- The line that a chunk is delivered as. -/
def chunkLine (chunk : List UInt8) : String := String.ofList (Text.Utf8.decodeLossy chunk)

theorem ReadOutcome.ofChunk_nil : ofChunk [] = .endOfInput := rfl

theorem ReadOutcome.ofChunk_of_ne_nil {chunk : List UInt8} (h : chunk ≠ []) :
    ofChunk chunk = .line (chunkLine chunk) := by
  simp [ofChunk, chunkLine, h]

namespace BufferedSource

/-- A source whose prompts are taken and whose reader does not break. -/
structure Waits (s : BufferedSource) (maxLine : Nat) (bytes : List UInt8) : Prop where
  healthy : s.prompts.IsHealthy
  maxLine_eq : s.maxLine = maxLine
  input_eq : s.input = { bytes }

/-- A call takes the next chunk and nothing else. -/
theorem Waits.read {s : BufferedSource} {maxLine : Nat} {bytes : List UInt8}
    (h : s.Waits maxLine bytes) (prompt : String) (world : World) :
    (read prompt s world).events = [.prompted prompt] ∧
    (read prompt s world).outcome =
      .ok (.ofChunk ((chunks (chunkLimit maxLine) bytes).head?.getD [])) ∧
    (read prompt s world).source.Waits maxLine
      (chunks (chunkLimit maxLine) bytes).tail.flatten ∧
    (read prompt s world).world = world := by
  obtain ⟨hp, rfl, hi⟩ := h
  obtain ⟨htaken, hfault, hsink⟩ := hp.deliver prompt
  have hnext : s.input.next (chunkLimit s.maxLine) =
      (.ok ((chunks (chunkLimit s.maxLine) bytes).head?.getD []),
        { bytes := (chunks (chunkLimit s.maxLine) bytes).tail.flatten }) := by
    simp [ByteInput.next, hi, takeChunk_eq_chunks (chunkLimit_pos s.maxLine)]
  simp only [BufferedSource.read, htaken, hfault, hnext, ReadOutcome.ofAttempt, true_and, and_true]
  exact ⟨hsink, rfl, rfl⟩

/-- A source of bytes follows the lines of its chunks. -/
theorem follows (maxLine : Nat) (prompt : String) :
    (lines World).Follows prompt fun s outcomes => ∃ bytes, s.Waits maxLine bytes ∧
      outcomes = (chunks (chunkLimit maxLine) bytes).map fun c => .ok (.line (chunkLine c)) := by
  rintro s _ world ⟨bytes, hw, rfl⟩
  have hl := chunkLimit_pos maxLine
  obtain ⟨hevents, houtcome, hsource, hworld⟩ := hw.read prompt world
  refine ⟨hevents, houtcome.trans ?_, ⟨_, hsource, ?_⟩, hworld⟩
  · have hne := (isGreedyCut_chunks hl bytes).nonempty
    cases hc : chunks (chunkLimit maxLine) bytes with
    | nil => rfl
    | cons chunk rest => simp [ReadOutcome.ofChunk_of_ne_nil (hne chunk (by simp [hc]))]
  · rw [chunks_tail hl, List.map_tail]

/-- What the call after some others gives: the chunk of its place, or the end. -/
theorem Waits.call {s : BufferedSource} {maxLine : Nat} {bytes : List UInt8}
    (h : s.Waits maxLine bytes) (prompt : String) (n : Nat) (world : World) :
    ((lines World).call prompt n s world).events = [.prompted prompt] ∧
    ((lines World).call prompt n s world).outcome =
      .ok (.ofChunk ((chunks (chunkLimit maxLine) bytes)[n]?.getD [])) ∧
    ((lines World).call prompt n s world).source.Waits maxLine
      ((chunks (chunkLimit maxLine) bytes).drop (n + 1)).flatten := by
  induction n generalizing s bytes world with
  | zero =>
    obtain ⟨hevents, houtcome, hsource, -⟩ := h.read prompt world
    rw [← List.head?_eq_getElem?, List.drop_one]
    exact ⟨hevents, houtcome, hsource⟩
  | succ n ih =>
    obtain ⟨-, -, hsource, -⟩ := h.read prompt world
    have hrest := ih hsource (BufferedSource.read prompt s world).world
    rw [chunks_tail (chunkLimit_pos maxLine), List.getElem?_tail, List.drop_tail] at hrest
    exact hrest

/-- Reading to the end makes one call for each chunk, and one more. -/
theorem Waits.readAll {s : BufferedSource} {maxLine : Nat} {bytes : List UInt8}
    (h : s.Waits maxLine bytes) (prompt : String) (world : World) :
    (lines World).readAll prompt s world =
      (List.range ((chunks (chunkLimit maxLine) bytes).length + 1)).map fun n =>
        (lines World).call prompt n s world := by
  induction hc : chunks (chunkLimit maxLine) bytes generalizing s bytes world with
  | nil =>
    obtain ⟨-, houtcome, -, -⟩ := h.read prompt world
    rw [LineSource.readAll_of_not_continues]
    · rfl
    · rw [hc] at houtcome
      simp [Reading.continues, lines, houtcome, ReadOutcome.ofChunk_nil]
  | cons chunk rest ih =>
    obtain ⟨-, houtcome, hsource, -⟩ := h.read prompt world
    have hne : chunk ≠ [] :=
      (isGreedyCut_chunks (chunkLimit_pos maxLine) bytes).nonempty chunk (by simp [hc])
    rw [LineSource.readAll_of_continues]
    · rw [List.length_cons, List.range_succ_eq_map, List.map_cons, List.map_map]
      congr 1
      refine ih hsource _ ?_
      rw [chunks_tail (chunkLimit_pos maxLine), hc, List.tail_cons]
    · rw [hc] at houtcome
      simp [Reading.continues, lines, houtcome, ReadOutcome.ofChunk_of_ne_nil hne]

/-- A source of bytes delivers the pieces of the one greedy cut of its bytes, each decoded by
itself, and prompts once a call; then the input is over, however often it is called. -/
theorem readings_of_greedy_cut (maxLine : Nat) (prompt : String) (bytes : List UInt8)
    (prompts : Sink) (h : prompts.IsHealthy) (world : World) :
    let limit := max (maxLine - 1) 1
    let source : BufferedSource := { maxLine, prompts, input := { bytes } }
    let readings := (lines World).readAll prompt source world
    ∃ pieces, IsGreedyCut limit bytes pieces ∧
      (∀ others, IsGreedyCut limit bytes others → others = pieces) ∧
      readings.map Reading.outcome =
        pieces.map (fun piece => .ok (.line (String.ofList (Text.Utf8.decodeLossy piece)))) ++
          [.ok .endOfInput] ∧
      readings.map Reading.events = List.replicate (pieces.length + 1) [.prompted prompt] ∧
      readings.length ≤ bytes.length + 1 ∧
      (∀ piece ∈ pieces, (Text.Utf8.decodeLossy piece).length ≤ limit) ∧
      ∀ n, let reading := (lines World).call prompt n source world
        reading.events = [.prompted prompt] ∧
        reading.outcome = .ok (match pieces[n]? with
          | some piece => .line (String.ofList (Text.Utf8.decodeLossy piece))
          | none => .endOfInput) ∧
        reading.source.input.bytes = (pieces.drop (n + 1)).flatten := by
  intro limit source readings
  have hw : source.Waits maxLine bytes := ⟨h, rfl, rfl⟩
  have hcut := isGreedyCut_chunks (chunkLimit_pos maxLine) bytes
  have hcall : ∀ n, ((lines World).call prompt n source world).outcome =
      .ok (match (chunks limit bytes)[n]? with
        | some piece => .line (chunkLine piece)
        | none => .endOfInput) := by
    intro n
    refine (hw.call prompt n world).2.1.trans ?_
    change Except.ok (ReadOutcome.ofChunk ((chunks limit bytes)[n]?.getD [])) = _
    cases hp : (chunks limit bytes)[n]? with
    | none => rfl
    | some piece =>
      rw [Option.getD_some,
        ReadOutcome.ofChunk_of_ne_nil (hcut.nonempty piece (List.mem_of_getElem? hp))]
  have hall : readings = (List.range ((chunks limit bytes).length + 1)).map fun n =>
      (lines World).call prompt n source world := hw.readAll prompt world
  refine ⟨chunks limit bytes, hcut, fun others ho => ho.eq_chunks, ?_, ?_, ?_, ?_, ?_⟩
  · rw [hall, List.map_map, List.range_succ, List.map_append]
    congr 1
    · apply List.ext_getElem (by simp)
      intro n hn hn'
      have hp : n < (chunks limit bytes).length := by simpa using hn
      simp [hcall, List.getElem?_eq_getElem hp, chunkLine]
    · simp [hcall]
  · rw [hall, List.map_map, List.eq_replicate_iff]
    refine ⟨by simp, ?_⟩
    intro events he
    obtain ⟨n, -, rfl⟩ := List.mem_map.1 he
    exact (hw.call prompt n world).1
  · rw [hall, List.length_map, List.length_range]
    exact Nat.succ_le_succ (length_chunks_le limit bytes)
  · intro piece hp
    exact Nat.le_trans (Text.Utf8.length_decodeLossy_le piece) (hcut.bounded piece hp)
  · intro n
    obtain ⟨hevents, -, hsource⟩ := hw.call prompt n world
    exact ⟨hevents, hcall n, congrArg ByteInput.bytes hsource.input_eq⟩

/-- Three chunks: a line, a piece of a line that is too long, and the rest of it, in which a byte is
no text. -/
theorem readings_of_greedy_cut_three :
    Sink.healthy.IsHealthy ∧
      ((lines Unit).readAll "> "
        { maxLine := 4, prompts := .healthy, input := { bytes := [97, 10, 98, 99, 100, 255] } }
        ()).map Reading.outcome =
      [.ok (.line "a\n"), .ok (.line "bcd"), .ok (.line "\uFFFD"), .ok .endOfInput] := by
  refine ⟨Sink.isHealthy_healthy, ?_⟩
  obtain ⟨pieces, hcut, -, houtcomes, -⟩ :=
    readings_of_greedy_cut 4 "> " [97, 10, 98, 99, 100, 255] .healthy Sink.isHealthy_healthy ()
  have hp : pieces = [[97, 10], [98, 99, 100], [255]] := by
    rw [hcut.eq_chunks]
    decide +kernel
  have hline : chunkLine [97, 10] = "a\n" := by decide +kernel
  have hpiece : chunkLine [98, 99, 100] = "bcd" := by decide +kernel
  have hrest : chunkLine [255] = "\uFFFD" := by decide +kernel
  rw [houtcomes, hp, ← hline, ← hpiece, ← hrest]
  rfl

end BufferedSource

end LineShell
