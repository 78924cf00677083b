import LineShell.Proofs.Courses
import LineShell.Proofs.Encoding
import LineShell.Proofs.InputLines

/-!
# Decoding piece by piece

A reader decodes each piece of its input by itself. Nothing is lost by that where every line fits
into a piece. Where a longer line is cut, the cut may fall inside a character, and then what stands
on either side of it is replaced: a text is delivered as it is exactly if no piece begins inside a
character.
-/

namespace LineShell

namespace Text.Utf8

/-! ## Where pieces begin -/

/-- The first byte, if there is one, continues no character. -/
def StartsUnit (bytes : List UInt8) : Prop := ∀ b ∈ bytes.head?, isTail b = false

/-- Units end where such a piece begins. -/
theorem units_append_of_startsUnit {ys : List UInt8} (h : StartsUnit ys) (xs : List UInt8) :
    units (xs ++ ys) = units xs ++ units ys := by
  cases ys with
  | nil => simp
  | cons b ys => exact units_append_cons (h b rfl) xs ys

theorem startsUnit_flatten {pieces : List (List UInt8)} (h : ∀ piece ∈ pieces, StartsUnit piece) :
    StartsUnit pieces.flatten := by
  induction pieces with
  | nil => exact nofun
  | cons piece pieces ih =>
    cases piece with
    | nil => exact ih fun q hq => h q (by simp [hq])
    | cons b piece => exact h (b :: piece) (by simp)

/-- The units of pieces that all begin so are the units of the whole. -/
theorem units_flatten {pieces : List (List UInt8)} (h : ∀ piece ∈ pieces, StartsUnit piece) :
    units pieces.flatten = pieces.flatMap units := by
  induction pieces with
  | nil => exact units_nil
  | cons piece pieces ih =>
    have hrest : ∀ q ∈ pieces, StartsUnit q := fun q hq => h q (by simp [hq])
    rw [List.flatten_cons, units_append_of_startsUnit (startsUnit_flatten hrest), ih hrest,
      List.flatMap_cons]

theorem flatMap_decodeLossy_eq (pieces : List (List UInt8)) :
    pieces.flatMap decodeLossy =
      (pieces.flatMap units).map fun unit => unit.getD replacement := by
  rw [List.map_flatMap]
  rfl

theorem flatMap_decodeLossy {pieces : List (List UInt8)} {bytes : List UInt8}
    (h : pieces.flatMap units = units bytes) : pieces.flatMap decodeLossy = decodeLossy bytes := by
  rw [flatMap_decodeLossy_eq, h, decodeLossy]

/-! ## Counting starts -/

/-- A byte that continues a character announces none. -/
theorem Lead.of?_tail {b : UInt8} (hb : isTail b = true) : Lead.of? b = none := by
  simp only [isTail, Bool.and_eq_true, decide_eq_true_eq] at hb
  have hlow : ¬ b < 0x80 := UInt8.not_lt.2 hb.1
  have hhigh : b < 0xC2 := UInt8.lt_of_le_of_lt hb.2 (by decide)
  rw [Lead.of?, if_neg hlow, if_pos hhigh]

theorem Lead.isTail_eq_false {b : UInt8} {lead : Lead} (h : Lead.of? b = some lead) :
    isTail b = false := by
  cases hb : isTail b with
  | false => rfl
  | true => cases h.symm.trans (Lead.of?_tail hb)

/-- The number of bytes that continue no character. -/
def starts (bytes : List UInt8) : Nat := bytes.countP fun b => !isTail b

theorem starts_append (xs ys : List UInt8) : starts (xs ++ ys) = starts xs + starts ys :=
  List.countP_append

theorem starts_cons_of_tail {b : UInt8} (hb : isTail b = true) (bytes : List UInt8) :
    starts (b :: bytes) = starts bytes := by
  simp [starts, hb]

theorem starts_cons_le (b : UInt8) (bytes : List UInt8) :
    starts (b :: bytes) ≤ starts bytes + 1 := by
  rw [starts, List.countP_cons]
  split
  · exact Nat.le_refl _
  · exact Nat.le_succ _

/-- What is taken after a lead continues its character. -/
theorem Lead.starts_within {a : UInt8} {lead : Lead} (ha : Lead.of? a = some lead)
    (bytes : List UInt8) :
    starts bytes = starts (bytes.drop (within lead.bounds bytes).length) := by
  have hb := Lead.bounds_le ha
  generalize lead.bounds = bounds at hb
  fun_induction within bounds bytes with
  | case1 low high bounds b rest hin ih =>
    simp only [Bool.and_eq_true, decide_eq_true_eq] at hin
    have hle := hb (low, high) (by simp)
    have htail : isTail b = true := by
      simpa [isTail] using ⟨UInt8.le_trans hle.1 hin.1, UInt8.le_trans hin.2 hle.2⟩
    rw [starts_cons_of_tail htail, List.length_cons, List.drop_succ_cons]
    exact ih fun p hp => hb p (by simp [hp])
  | case2 => rfl
  | case3 => rfl

/-- A byte that continues no character starts a unit of its own. -/
theorem starts_le_length_units (bytes : List UInt8) : starts bytes ≤ (units bytes).length := by
  fun_induction units bytes with
  | case1 => exact Nat.le_refl _
  | case2 a rest ha ih =>
    have hle := starts_cons_le a rest
    rw [List.length_cons]
    omega
  | case3 a rest lead ha tail ih =>
    have hle := starts_cons_le a rest
    have hrest : starts rest = starts (rest.drop tail.length) := Lead.starts_within ha rest
    rw [List.length_cons]
    omega

/-- A piece that begins inside a character has a unit more. -/
theorem starts_lt_length_units {bytes : List UInt8} (h : ¬ StartsUnit bytes) :
    starts bytes < (units bytes).length := by
  cases bytes with
  | nil => exact absurd nofun h
  | cons b rest =>
    have hb : isTail b = true := by simpa [StartsUnit] using h
    have hle := starts_le_length_units rest
    rw [starts_cons_of_tail hb, units_cons_of_none (Lead.of?_tail hb), List.length_cons]
    omega

theorem starts_flatten_le (pieces : List (List UInt8)) :
    starts pieces.flatten ≤ (pieces.flatMap units).length := by
  induction pieces with
  | nil => exact Nat.le_refl _
  | cons piece pieces ih =>
    have hle := starts_le_length_units piece
    rw [List.flatten_cons, starts_append, List.flatMap_cons, List.length_append]
    omega

theorem isTail_tailByte (n : Nat) : isTail (tailByte n) = true := by
  have hb : (tailByte n).toNat = n % 64 + 128 := toNat_ofNat (by omega)
  simp only [isTail, UInt8.le_iff_toNat_le, hb, Bool.and_eq_true, decide_eq_true_eq]
  simp
  omega

theorem Lead.starts_cons {b : UInt8} {lead : Lead} (h : Lead.of? b = some lead)
    {tail : List UInt8} (ht : ∀ c ∈ tail, isTail c = true) : starts (b :: tail) = 1 := by
  simpa [starts, Lead.isTail_eq_false h] using ht

/-- A character of a text starts once. -/
theorem starts_encodeChar (c : Char) : starts (String.utf8EncodeChar c) = 1 := by
  have hv : c.toNat < 0xD800 ∨ 0xDFFF < c.toNat ∧ c.toNat < 0x110000 := c.valid
  rw [encodeChar_eq]
  split
  · have hb : Lead.of? (UInt8.ofNat c.toNat) = some ⟨c.toNat, []⟩ := by
      rw [Lead.of?_ofNat (by omega), if_pos (by omega)]
    exact Lead.starts_cons hb nofun
  split
  · exact Lead.starts_cons (Lead.of?_two (by omega) (by omega)) (by simp [isTail_tailByte])
  split
  · obtain ⟨low, high, hb, -⟩ := Lead.of?_three (n := c.toNat) (by omega) (by omega) (by omega)
    exact Lead.starts_cons hb (by simp [isTail_tailByte])
  · obtain ⟨low, high, hb, -⟩ := Lead.of?_four (n := c.toNat) (by omega) (by omega)
    exact Lead.starts_cons hb (by simp [isTail_tailByte])

theorem starts_encode (cs : List Char) : starts (encode cs) = cs.length := by
  induction cs with
  | nil => rfl
  | cons c cs ih => rw [encode_cons, starts_append, starts_encodeChar, ih, List.length_cons,
      Nat.add_comm]

/-- A text cut into pieces is decoded as it is exactly if no piece begins inside a character. -/
theorem flatMap_decodeLossy_eq_iff {pieces : List (List UInt8)} {text : List Char}
    (h : pieces.flatten = encode text) :
    pieces.flatMap decodeLossy = text ↔ ∀ piece ∈ pieces, StartsUnit piece := by
  constructor
  · intro heq piece hp
    refine Classical.byContradiction fun hcut => ?_
    obtain ⟨before, after, rfl⟩ := List.append_of_mem hp
    -- The cut character counts as two units or more, and every other start as one at least.
    have hbefore := starts_flatten_le before
    have hafter := starts_flatten_le after
    have hpiece := starts_lt_length_units hcut
    have hstarts := congrArg starts h
    have hlength := congrArg List.length heq
    rw [starts_encode, List.flatten_append, List.flatten_cons, starts_append,
      starts_append] at hstarts
    rw [flatMap_decodeLossy_eq, List.length_map, List.flatMap_append, List.flatMap_cons,
      List.length_append, List.length_append] at hlength
    omega
  · intro hall
    rw [flatMap_decodeLossy ((units_flatten hall).symm), h, decodeLossy_encode]

end Text.Utf8

/-! ## What is delivered -/

variable {World Source : Type}

/-- The text of an outcome, if it is a line. -/
def ReadOutcome.text? : Except ShellError ReadOutcome → Option String
  | .ok (.line text) => some text
  | _ => none

/-- The lines of some readings, one after the other. -/
def delivered (readings : List (Reading Source World)) : String :=
  String.join ((readings.map Reading.outcome).filterMap ReadOutcome.text?)

/-- Reading to the end gives a line for each piece, and then says that the input is over. -/
theorem LineSource.Gives.readAll {lines : LineSource Source World} {prompt : String}
    {opening : Trace} {say : List UInt8 → String} {R : Source → List (List UInt8) → Prop}
    (hg : lines.Gives prompt opening say R) {source : Source} {pieces : List (List UInt8)}
    (hr : R source pieces) (world : World) :
    (lines.readAll prompt source world).map Reading.outcome =
      pieces.map (fun piece => .ok (.line (say piece))) ++ [.ok .endOfInput] := by
  induction pieces generalizing source world with
  | nil =>
    obtain ⟨-, houtcome, -, -⟩ := hg source [] world hr
    rw [readAll_of_not_continues (by simp [Reading.continues, houtcome])]
    simp [houtcome]
  | cons piece pieces ih =>
    obtain ⟨-, houtcome, hsource, -⟩ := hg source (piece :: pieces) world hr
    rw [readAll_of_continues (by simp [Reading.continues, houtcome]), List.map_cons,
      ih hsource]
    simp [houtcome]

theorem delivered_of_outcomes {readings : List (Reading Source World)}
    {pieces : List (List UInt8)}
    (h : readings.map Reading.outcome =
      pieces.map (fun piece => .ok (.line (chunkLine piece))) ++ [.ok .endOfInput]) :
    delivered readings = String.ofList (pieces.flatMap Text.Utf8.decodeLossy) := by
  have hlines : (pieces.map fun piece => Except.ok (.line (chunkLine piece))).filterMap
      ReadOutcome.text? = pieces.map chunkLine := by
    rw [List.filterMap_map]
    exact congrFun (List.filterMap_eq_map (f := chunkLine)) pieces
  have hend : [Except.ok ReadOutcome.endOfInput].filterMap ReadOutcome.text? = [] := rfl
  rw [delivered, h, List.filterMap_append, hlines, hend, List.append_nil, ← String.toList_inj,
    String.toList_join, String.toList_ofList, List.flatMap_map]
  simp only [toList_chunkLine]

namespace BufferedSource

/-- A source of bytes, from its first reading to the one that finds the end. -/
def readings (maxLine : Nat) (prompt : String) (prompts : Sink) (bytes : List UInt8)
    (world : World) : List (Reading BufferedSource World) :=
  (lines World).readAll prompt { maxLine, prompts, input := { bytes } } world

theorem outcomes_readings (maxLine : Nat) (prompt : String) {prompts : Sink}
    (h : prompts.IsHealthy) (bytes : List UInt8) (world : World) :
    (readings maxLine prompt prompts bytes world).map Reading.outcome =
      (chunks (chunkLimit maxLine) bytes).map (fun piece => .ok (.line (chunkLine piece))) ++
        [.ok .endOfInput] := by
  have hwhole := (isGreedyCut_chunks (chunkLimit_pos maxLine) bytes).whole
  refine (gives maxLine prompt).readAll ⟨⟨h, rfl, ?_⟩, ?_⟩ world
  · rw [hwhole]
  · rw [hwhole]

/-- Where every line fits into a piece, the units of the pieces are the units of the whole. -/
theorem units_chunks {limit : Nat} (hl : 0 < limit) {bytes : List UInt8}
    (h : ∀ content ∈ bytes.splitOn newline, content.length ≤ limit) :
    (chunks limit bytes).flatMap Text.Utf8.units = Text.Utf8.units bytes := by
  induction bytes using lines_induction newline with
  | last content hnl =>
    rw [List.splitOn_eq_singleton hnl] at h
    by_cases hne : content = []
    · subst hne
      rw [chunks_nil, List.flatMap_nil, Text.Utf8.units_nil]
    · rw [chunks_last_line hnl (h content (by simp)) hne, List.flatMap_singleton]
  | line content rest hnl ih =>
    rw [List.splitOn_append_cons_self_of_not_mem hnl] at h
    have hrest := ih fun c hc => h c (List.mem_cons_of_mem _ hc)
    have hmark : ∀ ys, Text.Utf8.units (content ++ newline :: ys) =
        Text.Utf8.units content ++ some '\n' :: Text.Utf8.units ys := by
      intro ys
      rw [Text.Utf8.units_append_cons (by decide), Text.Utf8.units_newline]
    rw [hmark, ← hrest]
    rcases Nat.lt_or_eq_of_le (h content (by simp)) with hlt | heq
    · rw [chunks_line hnl hlt, List.flatMap_cons, hmark, Text.Utf8.units_nil, List.append_assoc]
      rfl
    · -- The newline comes by itself, and is a unit of its own.
      rw [chunks_full_line hnl heq hl, List.flatMap_cons, List.flatMap_cons,
        Text.Utf8.units_newline, Text.Utf8.units_nil]
      rfl

/-- The bytes of a text are delivered as that text exactly if no piece of their greedy cut begins
inside a character. -/
theorem delivered_eq_iff (maxLine : Nat) (prompt : String) (text : List Char) (prompts : Sink)
    (h : prompts.IsHealthy) (world : World) :
    let bytes := Text.Utf8.encode text
    let readings := readings maxLine prompt prompts bytes world
    ∃ pieces, IsGreedyCut (max (maxLine - 1) 1) bytes pieces ∧
      readings.map Reading.outcome =
        pieces.map (fun piece => .ok (.line (String.ofList (Text.Utf8.decodeLossy piece)))) ++
          [.ok .endOfInput] ∧
      (delivered readings = String.ofList text ↔
        ∀ piece ∈ pieces, ∀ b ∈ piece.head?, Text.Utf8.isTail b = false) := by
  intro bytes readings
  have hcut := isGreedyCut_chunks (chunkLimit_pos maxLine) bytes
  have houtcomes := outcomes_readings maxLine prompt h bytes world
  refine ⟨chunks (chunkLimit maxLine) bytes, hcut, houtcomes, ?_⟩
  rw [delivered_of_outcomes houtcomes, String.ofList_inj]
  exact Text.Utf8.flatMap_decodeLossy_eq_iff hcut.whole

/-- Two characters of two bytes each, in pieces of two bytes. -/
theorem delivered_eq_iff_two :
    Sink.healthy.IsHealthy ∧
      delivered (readings 3 "> " .healthy (Text.Utf8.encode ['é', 'é']) ()) = "éé" := by
  obtain ⟨pieces, hcut, -, hiff⟩ :=
    delivered_eq_iff 3 "> " ['é', 'é'] .healthy Sink.isHealthy_healthy ()
  have hp : pieces = [[195, 169], [195, 169]] := by
    rw [hcut.eq_chunks]
    decide +kernel
  subst hp
  exact ⟨Sink.isHealthy_healthy, hiff.2 (by decide +kernel)⟩

/-- A character of two bytes, of which one stands at the end of a piece and one begins the next:
what is delivered is not the text. -/
theorem delivered_cut_character :
    let readings := readings 4 "> " .healthy (Text.Utf8.encode ['a', 'b', 'é']) ()
    readings.map Reading.outcome =
        [.ok (.line "ab\uFFFD"), .ok (.line "\uFFFD"), .ok .endOfInput] ∧
      delivered readings ≠ String.ofList ['a', 'b', 'é'] := by
  intro readings
  have hpieces : chunks (chunkLimit 4) (Text.Utf8.encode ['a', 'b', 'é']) =
      [[97, 98, 195], [169]] := by
    decide +kernel
  have hfirst : chunkLine [97, 98, 195] = "ab\uFFFD" := by decide +kernel
  have hsecond : chunkLine [169] = "\uFFFD" := by decide +kernel
  have houtcomes := outcomes_readings 4 "> " Sink.isHealthy_healthy
    (Text.Utf8.encode ['a', 'b', 'é']) ()
  constructor
  · rw [houtcomes, hpieces]
    simp [hfirst, hsecond]
  · rw [delivered_of_outcomes houtcomes, hpieces]
    decide +kernel

/-- Bytes whose lines fit into pieces, their newlines aside, are delivered as the bytes decoded at
once: the same units go wrong, each where it stands. -/
theorem delivered_of_fitting_lines (maxLine : Nat) (hline : 2 ≤ maxLine) (prompt : String)
    (bytes : List UInt8)
    (hfit : ∀ content ∈ bytes.splitOn newline, content.length ≤ maxLine - 1)
    (prompts : Sink) (h : prompts.IsHealthy) (world : World) :
    let readings := readings maxLine prompt prompts bytes world
    ∃ pieces, IsGreedyCut (maxLine - 1) bytes pieces ∧
      readings.map Reading.outcome =
        pieces.map (fun piece => .ok (.line (String.ofList (Text.Utf8.decodeLossy piece)))) ++
          [.ok .endOfInput] ∧
      pieces.flatMap Text.Utf8.units = Text.Utf8.units bytes ∧
      delivered readings = String.ofList (Text.Utf8.decodeLossy bytes) := by
  intro readings
  have hlimit : chunkLimit maxLine = maxLine - 1 := by
    unfold chunkLimit
    omega
  have hcut := isGreedyCut_chunks (chunkLimit_pos maxLine) bytes
  have houtcomes := outcomes_readings maxLine prompt h bytes world
  have hunits := units_chunks (chunkLimit_pos maxLine) (hlimit ▸ hfit)
  refine ⟨chunks (chunkLimit maxLine) bytes, hlimit ▸ hcut, houtcomes, hunits, ?_⟩
  rw [delivered_of_outcomes houtcomes, Text.Utf8.flatMap_decodeLossy hunits]

/-- A byte that begins nothing, a line that fills a piece, and a character cut off by the end. -/
theorem delivered_of_fitting_lines_three :
    2 ≤ 4 ∧
      (∀ content ∈ [97, 255, newline, 98, 99, 100, newline, 195].splitOn newline,
        content.length ≤ 4 - 1) ∧
      Sink.healthy.IsHealthy ∧
      delivered (readings 4 "> " .healthy [97, 255, newline, 98, 99, 100, newline, 195] ()) =
        "a\uFFFD\nbcd\n\uFFFD" := by
  have hfit : ∀ content ∈ [97, 255, newline, 98, 99, 100, newline, 195].splitOn newline,
      content.length ≤ 4 - 1 := by decide +kernel
  obtain ⟨-, -, -, -, hdelivered⟩ :=
    delivered_of_fitting_lines 4 (by decide) "> " [97, 255, newline, 98, 99, 100, newline, 195]
      hfit .healthy Sink.isHealthy_healthy ()
  refine ⟨by decide, hfit, Sink.isHealthy_healthy, hdelivered.trans ?_⟩
  decide +kernel

end BufferedSource

end LineShell
