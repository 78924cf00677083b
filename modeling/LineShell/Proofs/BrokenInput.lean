import LineShell.Proofs.Courses
import LineShell.Proofs.Breakdowns
import LineShell.Proofs.FailedPrompts
import LineShell.Proofs.Reports

/-!
# Input that breaks off

A reader may fail where its input should end. Chunks that hold all that they may are delivered
before it does; what it had gathered of a chunk by then is lost, so a session never runs a part of a
line as if it were the line. A prompt that fails costs nothing, for no byte is read before it.
-/

namespace LineShell

variable {Dir World Source : Type}

/-! ## Whole chunks -/

theorem isFilled_iff {limit : Nat} {chunk : List UInt8} :
    isFilled limit chunk = true ↔ chunk.getLast? = some newline ∨ chunk.length = limit := by
  simp [isFilled]

/-- The chunks of some bytes that hold all that they may: all of them, or all but the last. -/
def wholeChunks (limit : Nat) (bytes : List UInt8) : List (List UInt8) :=
  (chunks limit bytes).filter (isFilled limit)

theorem wholeChunks_of_filled {limit : Nat} (hl : 0 < limit) {bytes : List UInt8}
    (h : isFilled limit (takeChunk limit bytes).1 = true) :
    wholeChunks limit bytes =
      (takeChunk limit bytes).1 :: wholeChunks limit (takeChunk limit bytes).2 := by
  have hne : (takeChunk limit bytes).1 ≠ [] := by
    intro hnil
    rw [hnil, isFilled_iff] at h
    rcases h with h | h
    · cases h
    · exact Nat.ne_of_lt hl h
  rw [wholeChunks, chunks_of_takeChunk rfl hne, List.filter_cons_of_pos h, wholeChunks]

/-- A chunk that may hold more is the last. -/
theorem wholeChunks_of_not_filled {limit : Nat} {bytes : List UInt8}
    (h : isFilled limit (takeChunk limit bytes).1 = false) : wholeChunks limit bytes = [] := by
  have hrest : (takeChunk limit bytes).2 = [] := by
    refine Decidable.byContradiction fun hne => ?_
    rw [isFilled_iff.2 (takeChunk_filled hne)] at h
    cases h
  by_cases hne : (takeChunk limit bytes).1 = []
  · rw [wholeChunks, chunks, dif_pos hne, List.filter_nil]
  · rw [wholeChunks, chunks_of_takeChunk rfl hne, hrest, chunks_nil,
      List.filter_cons_of_neg (by simp [h]), List.filter_nil]

namespace ByteInput

/-- An input that fails behind its bytes, and the chunks that can be had before. -/
structure BreaksAfter (input : ByteInput) (limit : Nat) (cause : IoError)
    (pieces : List (List UInt8)) : Prop where
  broken_eq : input.broken = true
  cause_eq : input.failure.cause = cause
  pieces_eq : wholeChunks limit input.bytes = pieces

/-- Such an input gives its whole chunks one by one, and then fails for good. -/
theorem BreaksAfter.next {input : ByteInput} {limit : Nat} (hl : 0 < limit) {cause : IoError}
    {pieces : List (List UInt8)} (h : input.BreaksAfter limit cause pieces) :
    (input.next limit).1 = (pieces.head?.map .ok).getD (.error cause) ∧
      (input.next limit).2.BreaksAfter limit cause pieces.tail := by
  obtain ⟨hb, rfl, rfl⟩ := h
  cases hf : isFilled limit (takeChunk limit input.bytes).1 with
  | true =>
    have hnext : input.next limit =
        (.ok (takeChunk limit input.bytes).1,
          { input with bytes := (takeChunk limit input.bytes).2 }) := by
      simp [ByteInput.next, hf]
    rw [hnext, wholeChunks_of_filled hl hf]
    exact ⟨rfl, hb, rfl, rfl⟩
  | false =>
    have hnext : input.next limit = (.error input.failure.cause, { input with bytes := [] }) := by
      simp [ByteInput.next, hf, hb]
    -- No bytes are left, so there is no chunk to be had afterwards either.
    rw [hnext, wholeChunks_of_not_filled hf]
    refine ⟨rfl, hb, rfl, ?_⟩
    rw [wholeChunks, chunks_nil]
    rfl

theorem BreaksAfter.outcome {input : ByteInput} {limit : Nat} (hl : 0 < limit) {cause : IoError}
    {pieces : List (List UInt8)} (h : input.BreaksAfter limit cause pieces) :
    ReadOutcome.ofAttempt (input.next limit).1 =
      (pieces.head?.map fun piece => .ok (.line (chunkLine piece))).getD (.error (.io cause)) := by
  rw [(h.next hl).1]
  cases hp : pieces with
  | nil => rfl
  | cons piece rest =>
    have hmem : piece ∈ wholeChunks limit input.bytes := by simp [h.pieces_eq, hp]
    have hne := (isGreedyCut_chunks hl input.bytes).nonempty piece (List.mem_filter.1 hmem).1
    exact congrArg Except.ok (ReadOutcome.ofChunk_of_ne_nil hne)

theorem BreaksAfter.after {input : ByteInput} {limit : Nat} (hl : 0 < limit) {cause : IoError}
    {pieces : List (List UInt8)} (h : input.BreaksAfter limit cause pieces) (n : Nat) :
    (input.after limit n).BreaksAfter limit cause (pieces.drop n) := by
  induction n generalizing input pieces with
  | zero => exact h
  | succ n ih =>
    rw [ByteInput.after, ← List.drop_tail]
    exact ih (h.next hl).2

end ByteInput

namespace BufferedSource

/-- An input that breaks off gives a whole chunk for each prompt that was taken, and none for one
that was not. -/
theorem call_of_breaksAfter {s : BufferedSource} {cause : IoError} {pieces : List (List UInt8)}
    (h : s.input.BreaksAfter (chunkLimit s.maxLine) cause pieces) (prompt : String) (n : Nat)
    (world : World) :
    ((lines World).call prompt n s world).outcome =
      match (s.prompts.deliveries prompt n).fault with
      | some fault => .error (.io fault)
      | none =>
        (pieces[s.prompts.served prompt n]?.map fun piece => .ok (.line (chunkLine piece))).getD
          (.error (.io cause)) := by
  have hl := chunkLimit_pos s.maxLine
  obtain ⟨houtcome, -⟩ := call_eq prompt n s world
  rw [(h.after hl _).outcome hl, List.head?_drop] at houtcome
  exact houtcome

end BufferedSource

/-! ## Sources that fail -/

namespace LineSource

/-- Pieces of the input that wait in a source, each given as a line. Each call notes the same and
gives the first piece, or fails if there is none. -/
def GivesThenFails (lines : LineSource Source World) (prompt : String) (opening : Trace)
    (say : List UInt8 → String) (e : ShellError) (R : Source → List (List UInt8) → Prop) : Prop :=
  ∀ source pieces world, R source pieces →
    (lines.read prompt source world).events = opening ∧
    (lines.read prompt source world).outcome =
      (pieces.head?.map fun piece => .ok (.line (say piece))).getD (.error e) ∧
    R (lines.read prompt source world).source pieces.tail ∧
    (lines.read prompt source world).world = world

/-- Reading to the end gives each piece once, and then the failure. -/
theorem GivesThenFails.readAll {lines : LineSource Source World} {prompt : String}
    {opening : Trace} {say : List UInt8 → String} {e : ShellError}
    {R : Source → List (List UInt8) → Prop} (h : lines.GivesThenFails prompt opening say e R)
    {source : Source} {pieces : List (List UInt8)} (hr : R source pieces) (world : World) :
    (lines.readAll prompt source world).map Reading.outcome =
      pieces.map (fun piece => .ok (.line (say piece))) ++ [.error e] := by
  induction pieces generalizing source world with
  | nil =>
    obtain ⟨-, houtcome, -⟩ := h source [] world hr
    rw [readAll_of_not_continues (by rw [Reading.continues, houtcome]; rfl), List.map_singleton,
      houtcome]
    rfl
  | cons piece pieces ih =>
    obtain ⟨-, houtcome, hsource, -⟩ := h source (piece :: pieces) world hr
    rw [readAll_of_continues (by rw [Reading.continues, houtcome]; rfl), List.map_cons, houtcome,
      ih hsource]
    rfl

/-- Pieces of the input that wait in a source. Each call fails, or it gives the first piece as a
line. No call runs anything. -/
def GivesOrFails (lines : LineSource Source World) (prompt : String) (say : List UInt8 → String)
    (R : Source → List (List UInt8) → Prop) : Prop :=
  ∀ source pieces world, R source pieces →
    (lines.read prompt source world).events.dispatches = [] ∧
    ∀ outcome, (lines.read prompt source world).outcome = .ok outcome →
      ∃ piece rest, pieces = piece :: rest ∧ outcome = .line (say piece) ∧
        R (lines.read prompt source world).source rest

end LineSource

namespace BufferedSource

/-- A source of bytes that breaks off gives its whole chunks, decoded, and then fails. -/
theorem givesThenFails (maxLine : Nat) (prompt : String) (cause : IoError) :
    (lines World).GivesThenFails prompt [.prompted prompt] chunkLine (.io cause) fun s pieces =>
      s.prompts.IsHealthy ∧ s.maxLine = maxLine ∧
        s.input.BreaksAfter (chunkLimit maxLine) cause pieces := by
  rintro s pieces world ⟨hp, rfl, hb⟩
  obtain ⟨htaken, hfault, hsink⟩ := hp.deliver prompt
  have hl := chunkLimit_pos s.maxLine
  rw [read_of_no_fault hfault, htaken]
  exact ⟨rfl, hb.outcome hl, ⟨hsink, rfl, (hb.next hl).2⟩, rfl⟩

/-- Its prompts may fail too. -/
theorem givesOrFails (maxLine : Nat) (prompt : String) (cause : IoError) :
    (lines World).GivesOrFails prompt chunkLine fun s pieces =>
      s.maxLine = maxLine ∧ s.input.BreaksAfter (chunkLimit maxLine) cause pieces := by
  rintro s pieces world ⟨rfl, hb⟩
  have hl := chunkLimit_pos s.maxLine
  cases hf : (s.prompts.deliver prompt).fault with
  | some fault =>
    rw [read_of_fault hf]
    exact ⟨rfl, nofun⟩
  | none =>
    rw [read_of_no_fault hf, hb.outcome hl]
    refine ⟨rfl, fun outcome ho => ?_⟩
    cases pieces with
    | nil => cases ho
    | cons piece rest =>
      obtain rfl := Except.ok.inj ho
      exact ⟨piece, rest, rfl, rfl, rfl, (hb.next hl).2⟩

end BufferedSource

namespace Session

/-! ## Sessions -/

/-- The same round where the end of the input is a failure. -/
def Round.failing (e : ShellError) (r : Round Dir World) : Round Dir World :=
  match r.outcome with
  | .ok .endOfInput => { r with outcome := .error e, running := [] }
  | _ => r

/-- The same course where the end of the input is a failure. -/
def Course.failing (e : ShellError) (c : Course Dir World) : Course Dir World where
  rounds := c.rounds.map (Round.failing e)
  ending :=
    match c.ending with
    | .ok .endOfInput => .error e
    | ending => ending
  state := c.state

section

variable {host : Host Dir World} {t : Tokenizer} {opening : Trace}

/-- A course that its first line ends never comes to the end of the input. -/
theorem failing_course_of_ending {text : String} {s : State Dir World}
    {ending : Except ShellError SessionEnd}
    (h : endingAfter (executeLine host t text s).result = some ending) (texts : List String)
    (e : ShellError) :
    (course host t opening (text :: texts) s).failing e =
      course host t opening (text :: texts) s := by
  -- No line ends a course as the end of the input does.
  have hne : ending ≠ .ok .endOfInput :=
    fun hend => endingAfter_ne_endOfInput _ (h.trans (congrArg some hend))
  rw [course_of_ending h, Course.failing]
  congr 1
  split
  · next hend => exact absurd hend hne
  · rfl

theorem failing_course_of_no_ending {text : String} {s : State Dir World}
    (h : endingAfter (executeLine host t text s).result = none) (texts : List String)
    (e : ShellError) :
    (course host t opening (text :: texts) s).failing e =
      ((course host t opening texts (executeLine host t text s).state).failing e).after
        [⟨opening, .ok (.line text), (executeLine host t text s).events,
          (executeLine host t text s).state⟩] := by
  rw [course_of_no_ending h]
  rfl

/-- With sinks that take everything, it ends as an `exit` if a line says so, and else by failing. -/
theorem failing_course_ending {s : State Dir World} (hs : s.IsHealthy) (texts : List String)
    (e : ShellError) :
    ((course host t opening texts s).failing e).ending =
      if texts.any fun text => (t.tokenize text).any isExit then .ok .exit else .error e := by
  rw [Course.failing, course_ending hs]
  cases texts.any fun text => (t.tokenize text).any isExit <;> rfl

theorem failing_course_reading {texts : List String} {s : State Dir World} {e : ShellError}
    {r : Round Dir World} (hr : r ∈ ((course host t opening texts s).failing e).rounds) :
    r.reading = opening := by
  obtain ⟨q, hq, rfl⟩ := List.mem_map.1 hr
  rw [← course_reading hq, Round.failing]
  split <;> rfl

/-- Nothing that concerns commands is done at the end of an input, whichever it is. -/
theorem account_failing_course (texts : List String) (s : State Dir World) (e : ShellError) :
    ((course host t opening texts s).failing e).running.account =
      (course host t opening texts s).running.account := by
  induction texts generalizing s with
  | nil => exact (Trace.account_logged _ _).symm
  | cons text texts ih =>
    cases he : endingAfter (executeLine host t text s).result with
    | some ending => rw [failing_course_of_ending he]
    | none =>
      rw [failing_course_of_no_ending he, course_of_no_ending he]
      simp only [Course.running, Course.after, List.flatMap_append, Trace.account_append] at ih ⊢
      rw [ih]

end

/-- A session over a source that fails behind its pieces has the course over their lines, with the
failure at its end. -/
theorem run_givesThenFails (frame : Frame Source Dir World) {opening : Trace}
    {say : List UInt8 → String} {e : ShellError} {R : Source → List (List UInt8) → Prop}
    (hg : frame.source.GivesThenFails frame.prompt opening say e R) {source : Source}
    {pieces : List (List UInt8)} (hr : R source pieces) (s : State Dir World) :
    (run frame source s).course =
      (course frame.host frame.tokenizer opening (pieces.map say) s).failing e := by
  induction pieces generalizing source s with
  | nil =>
    obtain ⟨hevents, houtcome, -, hworld⟩ := hg source [] s.world hr
    rcases hread : frame.source.read frame.prompt source s.world with ⟨events, o, source', world⟩
    simp only [hread] at hevents houtcome hworld
    subst hevents houtcome hworld
    rw [run_of_ending hread rfl]
    rfl
  | cons piece pieces ih =>
    obtain ⟨hevents, houtcome, hsource, hworld⟩ := hg source (piece :: pieces) s.world hr
    rcases hread : frame.source.read frame.prompt source s.world with ⟨events, o, source', world⟩
    simp only [hread] at hevents houtcome hsource hworld
    subst hevents houtcome hworld
    cases he : endingAfter (executeLine frame.host frame.tokenizer (say piece) s).result with
    | some ending =>
      rw [run_of_ending hread he, List.map_cons, failing_course_of_ending he, course_of_ending he]
      rfl
    | none =>
      have hcourse := ih hsource (executeLine frame.host frame.tokenizer (say piece) s).state
      rw [run_of_no_ending hread he, List.map_cons, failing_course_of_no_ending he, ← hcourse]
      rfl

/-- What such a session does for its commands is what the lines come to. -/
theorem account_of_failing_course {run : Run Source Dir World} {host : Host Dir World}
    {t : Tokenizer} {opening : Trace} {texts : List String} {s : State Dir World} {e : ShellError}
    (h : run.course = (course host t opening texts s).failing e)
    (ho : Trace.account opening = {}) :
    run.events.account = (carryOut host (texts.filterMap t.tokenize) s).events.account := by
  have hreadings : ∀ r ∈ run.rounds, r.reading.account = {} := by
    intro r hr
    have hr' : r ∈ ((course host t opening texts s).failing e).rounds := h ▸ hr
    rw [failing_course_reading hr', ho]
  have hrunning : run.course.running.account = (course host t opening texts s).running.account := by
    rw [h, account_failing_course]
  exact (account_events hreadings).trans
    (hrunning.trans (congrArg (Trace.account ·.events) (course_eq_carryOut host t opening texts s)))

/-! ## Dispatches -/

section

variable {frame : Frame Source Dir World} {source : Source} {s : State Dir World}

/-- A session whose first reading fails does no more. -/
theorem run_of_error {e : ShellError}
    (h : (frame.source.read frame.prompt source s.world).outcome = .error e) :
    (run frame source s).events = (frame.source.read frame.prompt source s.world).events := by
  rcases hread : frame.source.read frame.prompt source s.world with ⟨events, o, source', world⟩
  rw [hread] at h
  subst h
  rw [run_of_ending hread rfl]
  simp [Run.events, Round.events, react]

/-- A session whose first reading is a line dispatches its command, and behind that nothing or what
a session over the rest dispatches. -/
theorem run_of_line {reading : Reading Source World} {text : String}
    (hread : frame.source.read frame.prompt source s.world = reading)
    (hline : reading.outcome = .ok (.line text)) (hnone : reading.events.dispatches = []) :
    ∃ later, (run frame source s).events.dispatches =
        (frame.tokenizer.tokenize text).toList ++ later ∧
      (later = [] ∨ ∃ s', later = (run frame reading.source s').events.dispatches) := by
  rcases reading with ⟨events, o, source', world⟩
  simp only at hline hnone
  subst hline
  have hstep := executeLine_dispatches frame.host frame.tokenizer text { s with world }
  cases he : endingAfter (executeLine frame.host frame.tokenizer text { s with world }).result with
  | some ending =>
    refine ⟨[], ?_, .inl rfl⟩
    rw [run_of_ending hread he]
    simp [Run.events, Round.events, react, Trace.dispatches_append, hnone, hstep]
  | none =>
    let next := (executeLine frame.host frame.tokenizer text { s with world }).state
    refine ⟨(run frame source' next).events.dispatches, ?_, .inr ⟨next, rfl⟩⟩
    rw [run_of_no_ending hread he]
    simp [Run.events, Round.events, react, Trace.dispatches_append, hnone, hstep, next]

/-- Whatever the sinks do, a session dispatches nothing but commands of pieces, in order. -/
theorem run_givesOrFails {say : List UInt8 → String} {R : Source → List (List UInt8) → Prop}
    (hg : frame.source.GivesOrFails frame.prompt say R) {pieces : List (List UInt8)}
    (hr : R source pieces) :
    (run frame source s).events.dispatches <+:
      (pieces.map say).filterMap frame.tokenizer.tokenize := by
  induction pieces generalizing source s with
  | nil =>
    obtain ⟨hnone, hgives⟩ := hg source [] s.world hr
    cases ho : (frame.source.read frame.prompt source s.world).outcome with
    | error e =>
      rw [run_of_error ho, hnone]
      exact List.nil_prefix
    | ok outcome =>
      obtain ⟨piece, rest, hnil, -⟩ := hgives outcome ho
      cases hnil
  | cons piece pieces ih =>
    obtain ⟨hnone, hgives⟩ := hg source (piece :: pieces) s.world hr
    cases ho : (frame.source.read frame.prompt source s.world).outcome with
    | error e =>
      rw [run_of_error ho, hnone]
      exact List.nil_prefix
    | ok outcome =>
      obtain ⟨_, _, hcons, rfl, hsource⟩ := hgives outcome ho
      cases hcons
      obtain ⟨later, hrun, hlater⟩ := run_of_line rfl ho hnone
      have hprefix : later <+: (pieces.map say).filterMap frame.tokenizer.tokenize := by
        rcases hlater with rfl | ⟨s', rfl⟩
        · exact List.nil_prefix
        · exact ih hsource
      rw [hrun, List.map_cons, List.filterMap_cons]
      cases frame.tokenizer.tokenize (say piece) with
      | none => exact hprefix
      | some args => exact (List.prefix_append_right_inj [args]).2 hprefix

end

/-! ## Input that breaks off -/

/-- Of an input that fails behind its bytes, the chunks are delivered that end with a newline or are
as long as they may be, each once, and then the failure, as often as it is asked for: a chunk for
each prompt that was taken. A session over it does what it would do over their lines, and fails
where it would find the end of the input; whatever its sinks do, it runs no command of bytes that
the failure cut short. Of any input, a call whose prompt cannot be written or flushed takes nothing,
and the first call behind such calls gives what they would have given. -/
theorem whole_chunks_before_failure (host : Host Dir World) (settings : Settings)
    (bytes : List UInt8) (failure : ReadFailure) :
    let limit := max (settings.maxLine - 1) 1
    let t : Tokenizer := { maxArgs := settings.maxArgs, mode := settings.split }
    let source : Sink → BufferedSource := fun prompts =>
      { maxLine := settings.maxLine, prompts, input := { bytes, broken := true, failure } }
    let cause := failure.cause
    let run := fun prompts s =>
      run (.ofSettings host (BufferedSource.lines World) settings) (source prompts) s
    (∃ pieces, IsGreedyCut limit bytes pieces ∧
      (∀ others, IsGreedyCut limit bytes others → others = pieces) ∧
      let whole := pieces.filter fun piece =>
        piece.getLast? = some newline || piece.length = limit
      let texts := whole.map fun piece => String.ofList (Text.Utf8.decodeLossy piece)
      let outcomes := texts.map fun text => Except.ok (ReadOutcome.line text)
      (∀ prompts : Sink, prompts.IsHealthy → ∀ s : State Dir World,
        ((BufferedSource.lines World).readAll settings.prompt (source prompts) s.world).map
            Reading.outcome = outcomes ++ [.error (.io cause)] ∧
        (run prompts s).course =
          (course host t [.prompted settings.prompt] texts s).failing (.io cause) ∧
        (s.IsHealthy →
          (run prompts s).events.dispatches = upTo isExit (texts.filterMap t.tokenize) ∧
          (run prompts s).ending =
            if texts.any fun text => (t.tokenize text).any isExit then .ok .exit
            else .error (.io cause))) ∧
      ∀ (prompts : Sink) (s : State Dir World),
        (run prompts s).events.dispatches <+: texts.filterMap t.tokenize ∧
        ∀ n, let call := (BufferedSource.lines World).call settings.prompt n
          (call (source prompts) s.world).outcome =
          match (prompts.deliveries settings.prompt n).fault with
          | some fault => .error (.io fault)
          | none => outcomes[prompts.served settings.prompt n]?.getD (.error (.io cause))) ∧
    ∀ (prompt : String) (source : BufferedSource) (world : World),
      (∀ fault, ((source.prompts.write prompt).fault = some fault ∨
          (source.prompts.write prompt).fault = none ∧
            (source.prompts.write prompt).sink.flush.fault = some fault) →
        let reading := (BufferedSource.lines World).read prompt source world
        reading.outcome = .error (.io fault) ∧ reading.source.input = source.input) ∧
      ∀ n, (∀ i < n, (source.prompts.deliveries prompt i).fault ≠ none) →
        (source.prompts.deliveries prompt n).fault = none →
        let later := (BufferedSource.lines World).call prompt n source world
        let atOnce := (BufferedSource.lines World).read prompt { source with prompts := .healthy }
          world
        later.outcome = atOnce.outcome ∧ later.source.input = atOnce.source.input := by
  intro limit t source cause run
  have hl : 0 < limit := chunkLimit_pos settings.maxLine
  have hb : ∀ prompts, (source prompts).input.BreaksAfter limit cause (wholeChunks limit bytes) :=
    fun _ => ⟨rfl, rfl, rfl⟩
  constructor
  · refine ⟨chunks limit bytes, isGreedyCut_chunks hl bytes, fun others ho => ho.eq_chunks, ?_⟩
    intro whole texts outcomes
    have houtcomes : outcomes =
        (wholeChunks limit bytes).map fun piece => .ok (.line (chunkLine piece)) := List.map_map
    constructor
    · intro prompts hp s
      have hg : (BufferedSource.lines World).GivesThenFails settings.prompt
          [.prompted settings.prompt] chunkLine (.io cause) _ :=
        BufferedSource.givesThenFails settings.maxLine settings.prompt cause
      have hcourse := run_givesThenFails (.ofSettings host (BufferedSource.lines World) settings)
        hg ⟨hp, rfl, hb prompts⟩ s
      refine ⟨?_, hcourse, fun hs => ⟨?_, ?_⟩⟩
      · rw [houtcomes]
        exact hg.readAll ⟨hp, rfl, hb prompts⟩ s.world
      · have haccount := account_of_failing_course hcourse (Trace.account_prompted _ _)
        exact (congrArg Account.dispatches haccount).trans (carryOut_reports host _ hs).1
      · exact (congrArg Course.ending hcourse).trans (failing_course_ending hs texts (.io cause))
    · intro prompts s
      constructor
      · exact run_givesOrFails (BufferedSource.givesOrFails settings.maxLine settings.prompt cause)
          ⟨rfl, hb prompts⟩
      · intro n
        rw [houtcomes, List.getElem?_map]
        exact BufferedSource.call_of_breaksAfter (hb prompts) settings.prompt n s.world
  · intro prompt source world
    constructor
    · intro fault hfault reading
      have hread : reading = _ :=
        BufferedSource.read_of_fault ((Sink.deliver_fault_iff _ _ _).2 hfault) world
      rw [hread]
      exact ⟨rfl, rfl⟩
    · intro n hbefore hnow
      exact BufferedSource.call_of_failures hbefore hnow world

/-- A line, a piece as long as it may be, and a command that the failure cuts short. Then a prompt
that cannot be flushed, and the line that the next call gives. -/
theorem whole_chunks_before_failure_two :
    let host : Host Unit Unit :=
      { chdir := fun _ _ _ => (.error (.os 2), ()), launch := fun _ _ _ => (.error (.os 2), ()) }
    let settings : Settings := { maxLine := 6 }
    let input : ByteInput :=
      { bytes := [108, 115, 10, 97, 98, 99, 100, 101, 101, 120, 105, 116], broken := true
        failure := { cause := .os 104 } }
    let s : State Unit Unit := ⟨(), (), .healthy, .healthy⟩
    let run := run (.ofSettings host (BufferedSource.lines Unit) settings)
      { maxLine := 6, prompts := .healthy, input } s
    let stuck : Sink :=
      { Sink.healthy with flushFault := fun n => if n = 1 then some .noSpace else none }
    let source : BufferedSource := { maxLine := 6, prompts := stuck, input }
    Sink.healthy.IsHealthy ∧ s.IsHealthy ∧
      run.events.dispatches = [⟨"ls", [], false⟩, ⟨"abcde", [], false⟩] ∧
      run.ending = .error (.io (.os 104)) ∧
      (stuck.write "> ").fault = none ∧
      (stuck.write "> ").sink.flush.fault = some .noSpace ∧
      ((BufferedSource.lines Unit).read "> " source ()).outcome = .error (.io .noSpace) ∧
      ((BufferedSource.lines Unit).call "> " 1 source ()).outcome = .ok (.line "ls\n") := by
  intro host settings input s run stuck source
  have hp := Sink.isHealthy_healthy
  have hs : s.IsHealthy := ⟨hp, hp⟩
  obtain ⟨⟨pieces, hcut, -, hsessions, -⟩, hprompts⟩ :=
    whole_chunks_before_failure host settings input.bytes input.failure
  obtain ⟨-, -, hhealthy⟩ := hsessions .healthy hp s
  obtain ⟨hdispatches, hending⟩ := hhealthy hs
  obtain ⟨hrefused, hlater⟩ := hprompts "> " source ()
  have hpieces : pieces = [[108, 115, 10], [97, 98, 99, 100, 101], [101, 120, 105, 116]] := by
    rw [hcut.eq_chunks]
    decide +kernel
  subst hpieces
  have hline : chunkLine [108, 115, 10] = "ls\n" := by decide +kernel
  have hfault : (stuck.write "> ").sink.flush.fault = some .noSpace := rfl
  refine ⟨hp, hs, hdispatches.trans ?_, hending.trans ?_, rfl, hfault,
    (hrefused .noSpace (.inr ⟨rfl, hfault⟩)).1, (hlater 1 ?_ rfl).1.trans ?_⟩
  · decide +kernel
  · exact if_neg (by decide +kernel)
  · intro i hi
    obtain rfl : i = 0 := by omega
    exact nofun
  · exact congrArg (fun text => Except.ok (ReadOutcome.line text)) hline

end Session

end LineShell
