import LineShell.Proofs.Courses
import LineShell.Proofs.Encoding
import LineShell.Proofs.InputLines

/-!
# Lines from an editor

Away from a terminal an editor gives the lines of its input without the marks behind them, and a
line is cut after that. The reader of chunks counts the newline too, and leaves the marks to the
tokenizer. Over a text whose lines both have room for, they say the same, so that sessions over them
do the same between their readings.
-/

namespace LineShell

/-! ## Lines without their marks -/

/-- A line without a carriage return at its end. -/
def dropReturn (line : List Char) : List Char :=
  if line.getLast? = some '\r' then line.dropLast else line

theorem dropReturn_cases (line : List Char) :
    dropReturn line = line ∨ line = dropReturn line ++ ['\r'] := by
  unfold dropReturn
  split
  · next h =>
    obtain ⟨start, rfl⟩ := List.getLast?_eq_some_iff.1 h
    simp
  · exact .inl rfl

theorem dropReturn_isPrefix (line : List Char) : dropReturn line <+: line := by
  rcases dropReturn_cases line with h | h
  · exact ⟨[], (List.append_nil _).trans h⟩
  · exact ⟨_, h.symm⟩

/-- The lines of a text without the marks behind them, which are a newline and a carriage return
right before it. Behind the last newline there is a line if there is anything. -/
def unmarkedLines (text : List Char) : List (List Char) :=
  (text.splitOn '\n').dropLast.map dropReturn ++
    (text.splitOn '\n').getLast?.toList.filter fun line => !line.isEmpty

theorem unmarkedLines_last {line : List Char} (hnl : '\n' ∉ line) :
    unmarkedLines line = if line = [] then [] else [line] := by
  rw [unmarkedLines, List.splitOn_eq_singleton hnl]
  cases line <;> simp

theorem unmarkedLines_line {line : List Char} (hnl : '\n' ∉ line) (rest : List Char) :
    unmarkedLines (line ++ '\n' :: rest) = dropReturn line :: unmarkedLines rest := by
  have hne : rest.splitOn '\n' ≠ [] := List.splitOn_ne_nil _ _
  rw [unmarkedLines, List.splitOn_append_cons_self_of_not_mem hnl, List.dropLast_cons_of_ne_nil hne,
    List.getLast?_cons_of_ne_nil hne]
  rfl

/-- A line without its mark begins a line of the text. -/
theorem mem_unmarkedLines {text line : List Char} (h : line ∈ unmarkedLines text) :
    ∃ whole ∈ text.splitOn '\n', line <+: whole := by
  rcases List.mem_append.1 h with h | h
  · obtain ⟨whole, hw, rfl⟩ := List.mem_map.1 h
    exact ⟨whole, List.dropLast_subset _ hw, dropReturn_isPrefix whole⟩
  · have hl := (List.mem_filter.1 h).1
    exact ⟨line, List.mem_of_getLast? (Option.mem_toList.1 hl), [], List.append_nil line⟩

/-- The bytes of a text fall into lines where the text does. -/
theorem Text.Utf8.splitOn_encode (text : List Char) :
    (encode text).splitOn newline = (text.splitOn '\n').map encode := by
  induction text using lines_induction '\n' with
  | last line hnl =>
    rw [List.splitOn_eq_singleton hnl,
      List.splitOn_eq_singleton (mt newline_mem_encode.1 hnl), List.map_singleton]
  | line line rest hnl ih =>
    rw [List.splitOn_append_cons_self_of_not_mem hnl, encode_append, encode_newline_cons,
      List.splitOn_append_cons_self_of_not_mem (mt newline_mem_encode.1 hnl), List.map_cons, ih]

/-! ## What lines say -/

namespace Tokenizer

/-- A separator at the end of a line says nothing. -/
theorem tokenize_concat (t : Tokenizer) {body : List Char} {c : Char}
    (hc : t.mode.separates c = true) (hnl : '\n' ∉ body ++ [c]) :
    t.tokenize (String.ofList (body ++ [c])) = t.tokenize (String.ofList body) := by
  have hbody : '\n' ∉ body := fun hm => hnl (List.mem_append_left _ hm)
  have hblank : Text.isAllBlank (body ++ [c]) = Text.isAllBlank body := by
    simp [Text.isAllBlank, SplitMode.isBlank_of_separates hc]
  have hwords : t.words (body ++ [c]) = t.words body := by
    rw [words, Text.words_append_cons hc, Text.words_nil, List.append_nil]
    rfl
  simp only [tokenize, String.toList_ofList, lineBody_of_not_mem hnl, lineBody_of_not_mem hbody,
    hblank, hwords]

/-- A text says the same without the marks of its lines, unless a carriage return before a newline
is part of a word. -/
theorem tokenize_unmarkedLines (t : Tokenizer) {text : List Char}
    (hends : t.mode = .whitespace ∨ ¬ ['\r', '\n'] <:+: text) :
    ((unmarkedLines text).map String.ofList).filterMap t.tokenize =
      (text.splitOn '\n').filterMap fun line => t.tokenize (String.ofList line) := by
  rw [List.filterMap_map]
  induction text using lines_induction '\n' with
  | last line hnl =>
    rw [unmarkedLines_last hnl, List.splitOn_eq_singleton hnl]
    split
    · next he =>
      subst he
      rfl
    · rfl
  | line line rest hnl ih =>
    have hrest : ['\r', '\n'] <:+: rest → ['\r', '\n'] <:+: line ++ '\n' :: rest :=
      fun h => h.trans ⟨line ++ ['\n'], [], by simp⟩
    have hline :
        t.tokenize (String.ofList (dropReturn line)) = t.tokenize (String.ofList line) := by
      rcases dropReturn_cases line with heq | heq
      · rw [heq]
      · have hin : ['\r', '\n'] <:+: line ++ '\n' :: rest := by
          obtain ⟨kept, rfl⟩ : ∃ kept, line = kept ++ ['\r'] := ⟨_, heq⟩
          exact ⟨kept, rest, by simp⟩
        have hc : t.mode.separates '\r' = true := by
          rw [hends.resolve_right (not_not_intro hin)]
          rfl
        have hnl' : '\n' ∉ dropReturn line ++ ['\r'] := by rwa [← heq]
        rw [← t.tokenize_concat hc hnl', ← heq]
    rw [unmarkedLines_line hnl, List.splitOn_append_cons_self_of_not_mem hnl, List.filterMap_cons,
      List.filterMap_cons, ih (hends.imp_right (mt hrest)), Function.comp, hline]

/-- The chunks of a text say what its lines say, if there is room for each line. -/
theorem tokenize_chunks_encode (t : Tokenizer) {limit : Nat} (hl : 0 < limit) {text : List Char}
    (hfit : ∀ line ∈ text.splitOn '\n', Text.byteLength line ≤ limit) :
    ((chunks limit (Text.Utf8.encode text)).map chunkLine).filterMap t.tokenize =
      (text.splitOn '\n').filterMap fun line => t.tokenize (String.ofList line) := by
  have hshort : ∀ content ∈ (Text.Utf8.encode text).splitOn newline, content.length ≤ limit := by
    rw [Text.Utf8.splitOn_encode, List.forall_mem_map]
    intro line hline
    rw [Text.Utf8.length_encode]
    exact hfit line hline
  have hchunk : ∀ line : List Char, chunkLine (Text.Utf8.encode line) = String.ofList line := by
    intro line
    rw [chunkLine, Text.Utf8.decodeLossy_encode]
  have hsay := t.tokenize_chunks hl (Text.Utf8.encode text) hshort
  rw [Text.Utf8.splitOn_encode, List.filterMap_map] at hsay
  rw [List.filterMap_map]
  simpa only [Function.comp_def, hchunk] using hsay

end Tokenizer

/-! ## Editors -/

namespace LineSource

variable {Source World : Type}

/-- An editor gives some lines, one a call, and then says that the input is over. Its calls leave
the world alone, and what they note and show is in no account. -/
def Delivers (editor : LineSource Source World) (prompt : String) : List String → Source → Prop
  | [], source => ∀ world,
    (editor.read prompt source world).outcome = .ok .endOfInput ∧
    (editor.read prompt source world).world = world ∧
    Trace.account (editor.read prompt source world).events = {}
  | text :: texts, source => ∀ world,
    (editor.read prompt source world).outcome = .ok (.line text) ∧
    (editor.read prompt source world).world = world ∧
    Trace.account (editor.read prompt source world).events = {} ∧
    editor.Delivers prompt texts (editor.read prompt source world).source

/-- Lines that there is room for are not cut. -/
theorem Delivers.cut {editor : LineSource Source World} {prompt : String} {texts : List String}
    {source : Source} (h : editor.Delivers prompt texts source) {maxLine : Nat}
    (hfit : ∀ text ∈ texts, Text.byteLength text.toList ≤ maxLine - 1) :
    (editor.cut maxLine).Delivers prompt texts source := by
  induction texts generalizing source with
  | nil =>
    intro world
    obtain ⟨houtcome, hworld, haccount⟩ := h world
    simp [LineSource.cut, readCut, houtcome, ReadOutcome.cut, hworld, haccount]
  | cons text texts ih =>
    intro world
    obtain ⟨houtcome, hworld, haccount, hrest⟩ := h world
    have hcut : ReadOutcome.cut maxLine (.ok (.line text)) = ([], .ok (.line text)) := by
      simp [ReadOutcome.cut, cutLine, hfit text (by simp)]
    have hlater := ih hrest fun t ht => hfit t (by simp [ht])
    simp only [LineSource.cut, readCut, houtcome, hcut, List.append_nil, true_and]
    exact ⟨hworld, haccount, hlater⟩

end LineSource

/-! ## The editor away from a terminal -/

namespace Text

theorem flatten_clustersFrom (s : ClusterState) (current cs : List Char) :
    (clustersFrom s current cs).flatten = current.reverse ++ cs := by
  induction cs generalizing s current with
  | nil => simp [clustersFrom]
  | cons c rest ih =>
    rw [clustersFrom]
    split
    · rw [ih, List.reverse_cons, List.append_assoc, List.singleton_append]
    · rw [List.flatten_cons, ih, List.reverse_singleton, List.singleton_append]

/-- A text is its clusters, one after the other. -/
theorem flatten_clusters (cs : List Char) : (clusters cs).flatten = cs := by
  cases cs with
  | nil => rfl
  | cons c rest => exact flatten_clustersFrom _ [c] rest

/-- Clusters that are no backspace are kept. -/
theorem Retraction.kept_foldl_step {parts : List (List Char)} (h : [backspace] ∉ parts)
    (r : Retraction) : (parts.foldl step r).kept = parts.flatten.reverse ++ r.kept := by
  induction parts generalizing r with
  | nil => rfl
  | cons part parts ih =>
    obtain ⟨hpart, hparts⟩ := not_or.1 (mt List.mem_cons.2 h)
    rw [List.foldl_cons, ih hparts, step, if_neg (Ne.symm hpart)]
    simp

theorem applyBackspaces_of_not_mem {cs : List Char} (h : backspace ∉ cs) :
    applyBackspaces cs = cs := by
  have hclusters : [backspace] ∉ clusters cs := by
    intro hm
    rw [← flatten_clusters cs] at h
    exact h (List.mem_flatten_of_mem hm (by simp))
  rw [applyBackspaces, Retraction.kept_foldl_step hclusters, flatten_clusters]
  simp

theorem Utf8.encode_eq_nil {cs : List Char} (h : encode cs = []) : cs = [] := by
  rw [← decodeLossy_encode cs, h, decodeLossy_nil]

end Text

theorem stripLineEnd_of_not_mem {line : List Char} (hnl : '\n' ∉ line) :
    stripLineEnd line = line := by
  rw [stripLineEnd, if_neg fun hlast => hnl (List.mem_of_getLast? hlast)]

theorem stripLineEnd_concat (line : List Char) :
    stripLineEnd (line ++ ['\n']) = dropReturn line := by
  rw [stripLineEnd, if_pos (by simp), List.dropLast_concat, dropReturn]

/-- The editor reads a line without backspaces as it is, but for its mark. -/
theorem ReadOutcome.ofEdited_encode {text : List Char} (hne : text ≠ [])
    (hback : Text.backspace ∉ stripLineEnd text) :
    ofEdited (Text.Utf8.encode text) = .ok (.line (String.ofList (stripLineEnd text))) := by
  rw [ofEdited, if_neg (by simpa using mt Text.Utf8.encode_eq_nil hne), Text.Utf8.decode?_encode]
  simp only [Text.applyBackspaces_of_not_mem hback]

namespace LineEditor

variable {World : Type}

theorem account_opening (showsPrompt : Bool) (prompt : String) :
    Trace.account (opening showsPrompt prompt) = {} := by
  cases showsPrompt <;> simp [opening]

theorem read_of_takeChunk {bytes piece left : List UInt8}
    (h : takeChunk bytes.length bytes = (piece, left)) (prompt : String) (showsPrompt : Bool)
    (world : World) :
    (lines World).read prompt { showsPrompt, bytes } world =
      ⟨opening showsPrompt prompt, ReadOutcome.ofEdited piece, { showsPrompt, bytes := left },
        world⟩ := by
  simp only [lines, read, h]

theorem delivers_nil (prompt : String) (showsPrompt : Bool) :
    (lines World).Delivers prompt [] { showsPrompt, bytes := Text.Utf8.encode [] } := by
  intro world
  have htake : takeChunk (Text.Utf8.encode []).length (Text.Utf8.encode []) = ([], []) := rfl
  rw [read_of_takeChunk htake]
  exact ⟨rfl, rfl, account_opening showsPrompt prompt⟩

/-- What is taken of the bytes comes before the lines of what is left. -/
theorem delivers_cons {prompt : String} {showsPrompt : Bool} {part rest : List Char}
    (hne : part ≠ []) (hback : Text.backspace ∉ stripLineEnd part)
    (hnl : newline ∉ (Text.Utf8.encode part).dropLast)
    (hmark : Text.Utf8.encode rest ≠ [] → (Text.Utf8.encode part).getLast? = some newline)
    {texts : List String}
    (hrest : (lines World).Delivers prompt texts { showsPrompt, bytes := Text.Utf8.encode rest }) :
    (lines World).Delivers prompt (String.ofList (stripLineEnd part) :: texts)
      { showsPrompt, bytes := Text.Utf8.encode (part ++ rest) } := by
  intro world
  have htake : takeChunk (Text.Utf8.encode part ++ Text.Utf8.encode rest).length
      (Text.Utf8.encode part ++ Text.Utf8.encode rest) =
      (Text.Utf8.encode part, Text.Utf8.encode rest) :=
    takeChunk_append_eq (by simp) hnl fun h => .inl (hmark h)
  rw [← Text.Utf8.encode_append] at htake
  rw [read_of_takeChunk htake]
  exact ⟨ReadOutcome.ofEdited_encode hne hback, rfl, account_opening showsPrompt prompt, hrest⟩

/-- Away from a terminal the editor gives the lines of a text without backspaces. -/
theorem delivers (prompt : String) (showsPrompt : Bool) {text : List Char}
    (hback : Text.backspace ∉ text) :
    (lines World).Delivers prompt ((unmarkedLines text).map String.ofList)
      { showsPrompt, bytes := Text.Utf8.encode text } := by
  induction text using lines_induction '\n' with
  | last line hnl =>
    have hbytes := mt Text.Utf8.newline_mem_encode.1 hnl
    rw [unmarkedLines_last hnl]
    split
    · next he =>
      subst he
      exact delivers_nil prompt showsPrompt
    · next hne =>
      have hstrip := stripLineEnd_of_not_mem hnl
      have hnil : (lines World).Delivers prompt [] _ := delivers_nil prompt showsPrompt
      have hcons := delivers_cons hne (hstrip.symm ▸ hback)
        (fun h => hbytes (List.dropLast_subset _ h)) (absurd rfl) hnil
      rwa [List.append_nil, hstrip] at hcons
  | line line rest hnl ih =>
    rw [List.mem_append, List.mem_cons, not_or, not_or] at hback
    have hbytes := mt Text.Utf8.newline_mem_encode.1 hnl
    have hmark : Text.Utf8.encode (line ++ ['\n']) = Text.Utf8.encode line ++ [newline] :=
      Text.Utf8.encode_append line ['\n']
    have hstrip := stripLineEnd_concat line
    rw [unmarkedLines_line hnl, List.append_cons, List.map_cons, ← hstrip]
    refine delivers_cons (by simp) ?_ (by rwa [hmark, List.dropLast_concat]) ?_ (ih hback.2.2)
    · rw [hstrip]
      exact fun h => hback.1 ((dropReturn_isPrefix line).subset h)
    · intro _
      rw [hmark, List.getLast?_concat]

end LineEditor

/-! ## Sessions -/

namespace Session

variable {Dir World Editor : Type}

/-- Courses over lines that say the same differ in their readings only. -/
theorem course_congr (host : Host Dir World) (t : Tokenizer) (opening opening' : Trace)
    {texts texts' : List String} (h : texts.filterMap t.tokenize = texts'.filterMap t.tokenize)
    (s : State Dir World) :
    (course host t opening texts s).running = (course host t opening' texts' s).running ∧
      (course host t opening texts s).ending = (course host t opening' texts' s).ending ∧
      (course host t opening texts s).state = (course host t opening' texts' s).state := by
  have hcourse := course_eq_carryOut host t opening texts s
  rw [h, ← course_eq_carryOut host t opening' texts' s] at hcourse
  exact ⟨congrArg Step.events hcourse, congrArg Step.result hcourse, congrArg Step.state hcourse⟩

/-- A session over an editor has the course over the lines that it gives, but for what the editor
notes and shows. -/
theorem run_delivers (frame : Frame Editor Dir World) {texts : List String} {editor : Editor}
    (h : frame.source.Delivers frame.prompt texts editor) (s : State Dir World) :
    (run frame editor s).course.running = (course frame.host frame.tokenizer [] texts s).running ∧
      (run frame editor s).ending = (course frame.host frame.tokenizer [] texts s).ending ∧
      (run frame editor s).state = (course frame.host frame.tokenizer [] texts s).state ∧
      ∀ r ∈ (run frame editor s).rounds, Trace.account r.reading = {} := by
  induction texts generalizing editor s with
  | nil =>
    obtain ⟨houtcome, hworld, haccount⟩ := h s.world
    rcases hread : frame.source.read frame.prompt editor s.world with ⟨events, o, editor', world⟩
    simp only [hread] at houtcome hworld haccount
    subst houtcome hworld
    rw [run_of_ending hread rfl]
    exact ⟨rfl, rfl, rfl, by simpa using haccount⟩
  | cons text texts ih =>
    obtain ⟨houtcome, hworld, haccount, hrest⟩ := h s.world
    rcases hread : frame.source.read frame.prompt editor s.world with ⟨events, o, editor', world⟩
    simp only [hread] at houtcome hworld haccount hrest
    subst houtcome hworld
    cases he : endingAfter (executeLine frame.host frame.tokenizer text s).result with
    | some ending =>
      rw [run_of_ending hread he, course_of_ending he]
      exact ⟨rfl, rfl, rfl, by simpa using haccount⟩
    | none =>
      obtain ⟨hrunning, hending, hstate, hreadings⟩ :=
        ih hrest (executeLine frame.host frame.tokenizer text s).state
      rw [run_of_no_ending hread he, course_of_no_ending he]
      refine ⟨?_, hending, hstate, List.forall_mem_cons.2 ⟨haccount, hreadings⟩⟩
      exact congrArg ((executeLine frame.host frame.tokenizer text s).events ++ ·) hrunning

/-- Sessions over the lines of a text from an editor and over its chunks do the same between their
readings, if there is room for each line, and no carriage return before a newline where that would
be part of a word. The editor gives the lines of texts without backspaces, without their marks. -/
theorem run_edited (host : Host Dir World) (settings : Settings) (hline : 2 ≤ settings.maxLine)
    (editor : LineSource Editor World) (opened : List UInt8 → Editor)
    (heditor : ∀ text, Text.backspace ∉ text → editor.Delivers settings.prompt
      ((unmarkedLines text).map String.ofList) (opened (Text.Utf8.encode text)))
    (text : List Char) (hback : Text.backspace ∉ text)
    (hfit : ∀ line ∈ text.splitOn '\n', Text.byteLength line ≤ settings.maxLine - 1)
    (hends : settings.split = .whitespace ∨ ¬ ['\r', '\n'] <:+: text)
    (prompts : Sink) (hp : prompts.IsHealthy) (s : State Dir World) :
    let bytes := Text.Utf8.encode text
    let edited := run (.ofSettings host (editor.cut settings.maxLine) settings) (opened bytes) s
    let buffered := overBytes host settings prompts bytes s
    edited.rounds.flatMap Round.running = buffered.rounds.flatMap Round.running ∧
      edited.events.account = buffered.events.account ∧
      edited.ending = buffered.ending ∧ edited.state = buffered.state := by
  intro bytes edited buffered
  let t : Tokenizer := { maxArgs := settings.maxArgs, mode := settings.split }
  have hlimit : chunkLimit settings.maxLine = settings.maxLine - 1 := by
    unfold chunkLimit
    omega
  have hroom : ∀ line ∈ (unmarkedLines text).map String.ofList,
      Text.byteLength line.toList ≤ settings.maxLine - 1 := by
    rw [List.forall_mem_map]
    intro line hm
    obtain ⟨whole, hw, dropped, rfl⟩ := mem_unmarkedLines hm
    have hle := hfit _ hw
    rw [Text.byteLength_append] at hle
    rw [String.toList_ofList]
    omega
  obtain ⟨hedited, hending, hstate, hreadings⟩ :=
    run_delivers (.ofSettings host (editor.cut settings.maxLine) settings)
      ((heditor text hback).cut hroom) s
  obtain ⟨hbuffered, -⟩ := overBytes_course host settings hp bytes s
  have hsay := (t.tokenize_unmarkedLines hends).trans
    (t.tokenize_chunks_encode (chunkLimit_pos settings.maxLine) (hlimit ▸ hfit)).symm
  obtain ⟨hrunning, hending', hstate'⟩ :=
    course_congr host t [] [.prompted settings.prompt] hsay s
  have hsame : edited.course.running = buffered.course.running := by
    rw [hbuffered]
    exact hedited.trans hrunning
  refine ⟨hsame, ?_, ?_, ?_⟩
  · rw [account_of_course hbuffered (Trace.account_prompted settings.prompt []), ← hsame]
    exact account_events hreadings
  · exact (hending.trans hending').trans (congrArg Course.ending hbuffered.symm)
  · exact (hstate.trans hstate').trans (congrArg Course.state hbuffered.symm)

/-- Two lines: one as long as a chunk, its carriage return counted, and a last one without a
newline. -/
theorem run_edited_two :
    let host : Host Unit Unit :=
      { chdir := fun _ _ _ => (.ok (), ()), launch := fun _ _ _ => (.error (.os 2), ()) }
    let settings : Settings := { maxLine := 6 }
    let editor := LineEditor.lines Unit
    let opened (bytes : List UInt8) : LineEditor := { showsPrompt := true, bytes }
    let text := ['c', 'd', ' ', 'a', '\r', '\n', 'e', 'x', 'i', 't']
    let bytes := Text.Utf8.encode text
    let s : State Unit Unit := ⟨(), (), .healthy, .healthy⟩
    let edited := run (.ofSettings host (editor.cut 6) settings) (opened bytes) s
    let buffered := overBytes host settings .healthy bytes s
    2 ≤ settings.maxLine ∧
      (∀ text, Text.backspace ∉ text → editor.Delivers settings.prompt
        ((unmarkedLines text).map String.ofList) (opened (Text.Utf8.encode text))) ∧
      Text.backspace ∉ text ∧
      (∀ line ∈ text.splitOn '\n', Text.byteLength line ≤ settings.maxLine - 1) ∧
      (settings.split = .whitespace ∨ ¬ ['\r', '\n'] <:+: text) ∧ Sink.healthy.IsHealthy ∧
      edited.events.dispatches = [⟨"cd", ["a"], false⟩, ⟨"exit", [], false⟩] ∧
      edited.ending = buffered.ending ∧ edited.state = buffered.state := by
  intro host settings editor opened text bytes s edited buffered
  have hp := Sink.isHealthy_healthy
  have heditor : ∀ text, Text.backspace ∉ text → editor.Delivers settings.prompt
      ((unmarkedLines text).map String.ofList) (opened (Text.Utf8.encode text)) :=
    fun text => LineEditor.delivers settings.prompt true
  have hback : Text.backspace ∉ text := by decide
  have hfit : ∀ line ∈ text.splitOn '\n', Text.byteLength line ≤ settings.maxLine - 1 := by decide
  obtain ⟨-, haccount, hending, hstate⟩ :=
    run_edited host settings (by decide) editor opened heditor text hback hfit (.inl rfl) .healthy
      hp s
  have hs : s.IsHealthy := ⟨hp, hp⟩
  have hw : ({ maxLine := 6, prompts := .healthy, input := { bytes } } : BufferedSource).Waits 6
      bytes := ⟨hp, rfl, rfl⟩
  obtain ⟨hfollows, -⟩ := run_follows (.ofSettings host (BufferedSource.lines Unit) settings)
    (BufferedSource.follows 6 settings.prompt) ⟨bytes, hw, rfl⟩ hs
  refine ⟨by decide, heditor, hback, hfit, .inl rfl, hp, ?_, hending, hstate⟩
  refine (congrArg Account.dispatches haccount).trans (hfollows.dispatches_eq.trans ?_)
  decide +kernel

end Session

end LineShell
