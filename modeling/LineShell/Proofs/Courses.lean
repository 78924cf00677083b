import LineShell.Proofs.Rounds

/-!
# The course of a session over lines

What a session does depends on the lines that its source gives and on nothing else of the source. It
carries nothing from one line to the next but its state: the course over some lines and more is the
course over the first, and from where that ends the course over the others.
-/

namespace LineShell

variable {Dir World Source : Type}

/-- Pieces of the input that wait in a source, each given as a line. Each call notes the same and
gives the first piece, or says that the input is over if there is none. -/
def LineSource.Gives (lines : LineSource Source World) (prompt : String) (opening : Trace)
    (say : List UInt8 → String) (R : Source → List (List UInt8) → Prop) : Prop :=
  ∀ source pieces world, R source pieces →
    (lines.read prompt source world).events = opening ∧
    (lines.read prompt source world).outcome =
      .ok ((pieces.head?.map fun piece => .line (say piece)).getD .endOfInput) ∧
    R (lines.read prompt source world).source pieces.tail ∧
    (lines.read prompt source world).world = world

namespace Session

/-- The rounds of a session, how it ends, and the state that it leaves. -/
structure Course (Dir World : Type) where
  rounds : List (Round Dir World)
  ending : Except ShellError SessionEnd
  state : State Dir World

namespace Course

/-- The course that has some rounds before another course. -/
def after (rounds : List (Round Dir World)) (later : Course Dir World) : Course Dir World :=
  { later with rounds := rounds ++ later.rounds }

/-- Everything that happened between the readings. -/
def running (c : Course Dir World) : Trace := c.rounds.flatMap Round.running

end Course

/-- A session without the source that it read from. -/
def Run.course (run : Run Source Dir World) : Course Dir World :=
  ⟨run.rounds, run.ending, run.state⟩

/-- The round that finds the end of the input. -/
def lastRound (opening : Trace) (s : State Dir World) : Round Dir World :=
  ⟨opening, .ok .endOfInput, [.logged (Log.debug "end of input")], s⟩

/-- The course over some lines and the end of the input behind them. -/
def course (host : Host Dir World) (t : Tokenizer) (opening : Trace) :
    List String → State Dir World → Course Dir World
  | [], s => ⟨[lastRound opening s], .ok .endOfInput, s⟩
  | text :: texts, s =>
    let step := executeLine host t text s
    let round : Round Dir World := ⟨opening, .ok (.line text), step.events, step.state⟩
    match endingAfter step.result with
    | some ending => ⟨[round], ending, step.state⟩
    | none => (course host t opening texts step.state).after [round]

section

variable {host : Host Dir World} {t : Tokenizer} {opening : Trace}

theorem course_of_ending {text : String} {s : State Dir World}
    {ending : Except ShellError SessionEnd}
    (h : endingAfter (executeLine host t text s).result = some ending) (texts : List String) :
    course host t opening (text :: texts) s =
      ⟨[⟨opening, .ok (.line text), (executeLine host t text s).events,
        (executeLine host t text s).state⟩], ending, (executeLine host t text s).state⟩ := by
  rw [course]
  simp only [h]

theorem course_of_no_ending {text : String} {s : State Dir World}
    (h : endingAfter (executeLine host t text s).result = none) (texts : List String) :
    course host t opening (text :: texts) s =
      (course host t opening texts (executeLine host t text s).state).after
        [⟨opening, .ok (.line text), (executeLine host t text s).events,
          (executeLine host t text s).state⟩] := by
  rw [course]
  simp only [h]

/-! ## Endings -/

/-- No line is the end of the input. -/
theorem endingAfter_ne_endOfInput (result : Except IoError Flow) :
    endingAfter result ≠ some (.ok .endOfInput) := by
  rcases result with cause | flow
  · simp [endingAfter]
  · cases flow <;> simp [endingAfter]

/-- With sinks that take everything, a course ends as an `exit` if a line says so, and else at the
end of the input. -/
theorem course_ending {s : State Dir World} (hs : s.IsHealthy) (texts : List String) :
    (course host t opening texts s).ending =
      if texts.any fun text => (t.tokenize text).any isExit then .ok .exit
      else .ok .endOfInput := by
  induction texts generalizing s with
  | nil => rfl
  | cons text texts ih =>
    obtain ⟨-, -, hs', hresult⟩ := executeLine_does host t text hs
    cases he : (t.tokenize text).any isExit with
    | true =>
      rw [he] at hresult
      rw [course_of_ending (congrArg endingAfter hresult), List.any_cons, he]
      rfl
    | false =>
      rw [he] at hresult
      rw [course_of_no_ending (congrArg endingAfter hresult), List.any_cons, he]
      exact ih hs'

/-! ## More lines -/

/-- A course that ends before the lines do takes no line from behind them. -/
theorem course_append_of_ending {texts : List String} {s : State Dir World}
    (h : (course host t opening texts s).ending ≠ .ok .endOfInput) (more : List String) :
    course host t opening (texts ++ more) s = course host t opening texts s ∧
      (course host t opening texts s).rounds.length ≤ texts.length := by
  induction texts generalizing s with
  | nil => exact absurd rfl h
  | cons text texts ih =>
    cases he : endingAfter (executeLine host t text s).result with
    | some ending =>
      rw [List.cons_append, course_of_ending he, course_of_ending he]
      exact ⟨rfl, by simp⟩
    | none =>
      rw [course_of_no_ending he] at h ⊢
      obtain ⟨hcourse, hlength⟩ := ih h
      rw [List.cons_append, course_of_no_ending he, hcourse]
      exact ⟨rfl, Nat.succ_le_succ hlength⟩

/-- A course that takes all lines goes on with the lines behind them, from the state that it left.
Only the round that found the end of the input is gone. -/
theorem course_append_of_endOfInput {texts : List String} {s : State Dir World}
    (h : (course host t opening texts s).ending = .ok .endOfInput) (more : List String) :
    ∃ rounds, (course host t opening texts s).rounds =
        rounds ++ [lastRound opening (course host t opening texts s).state] ∧
      course host t opening (texts ++ more) s =
        (course host t opening more (course host t opening texts s).state).after rounds := by
  induction texts generalizing s with
  | nil => exact ⟨[], rfl, rfl⟩
  | cons text texts ih =>
    cases he : endingAfter (executeLine host t text s).result with
    | some ending =>
      rw [course_of_ending he] at h
      exact absurd (he.trans (congrArg some h)) (endingAfter_ne_endOfInput _)
    | none =>
      rw [course_of_no_ending he] at h ⊢
      obtain ⟨rounds, hrounds, hcourse⟩ := ih h
      refine ⟨_ :: rounds, congrArg (List.cons _) hrounds, ?_⟩
      rw [List.cons_append, course_of_no_ending he, hcourse]
      rfl

/-! ## Commands -/

theorem course_reading {texts : List String} {s : State Dir World} {r : Round Dir World}
    (hr : r ∈ (course host t opening texts s).rounds) : r.reading = opening := by
  induction texts generalizing s with
  | nil =>
    obtain rfl := List.mem_singleton.1 hr
    rfl
  | cons text texts ih =>
    cases he : endingAfter (executeLine host t text s).result with
    | some ending =>
      rw [course_of_ending he] at hr
      obtain rfl := List.mem_singleton.1 hr
      rfl
    | none =>
      rw [course_of_no_ending he] at hr
      rcases List.mem_cons.1 hr with rfl | hr
      · rfl
      · exact ih hr

/-- Where reading has no account, the account is that of what happened between the readings. -/
theorem account_events {rounds : List (Round Dir World)}
    (h : ∀ r ∈ rounds, r.reading.account = {}) :
    Trace.account (rounds.flatMap Round.events) =
      Trace.account (rounds.flatMap Round.running) := by
  induction rounds with
  | nil => rfl
  | cons r rounds ih =>
    rw [List.flatMap_cons, List.flatMap_cons, Trace.account_append, Trace.account_append,
      ih fun q hq => h q (List.mem_cons_of_mem _ hq), Round.events, Trace.account_append,
      h r (by simp), Account.nil_append]

theorem account_of_course {run : Run Source Dir World} {texts : List String}
    {s : State Dir World} (h : run.course = course host t opening texts s)
    (ho : Trace.account opening = {}) : run.events.account = run.course.running.account := by
  refine account_events fun r hr => ?_
  have hr' : r ∈ (course host t opening texts s).rounds := h ▸ hr
  rw [course_reading hr', ho]

/-- Carries out commands, until one ends the session or there is none left. -/
def carryOut (host : Host Dir World) : List ArgumentVector → State Dir World →
    Step Dir World (Except ShellError SessionEnd)
  | [], s => ⟨[.logged (Log.debug "end of input")], s, .ok .endOfInput⟩
  | args :: rest, s =>
    let step := dispatch host args s
    match endingAfter step.result with
    | some ending => ⟨step.events, step.state, ending⟩
    | none =>
      let later := carryOut host rest step.state
      { later with events := step.events ++ later.events }

/-- What happens between the readings, how it ends and what it leaves is what the commands of the
lines come to. A line without a command changes nothing. -/
theorem course_eq_carryOut (host : Host Dir World) (t : Tokenizer) (opening : Trace)
    (texts : List String) (s : State Dir World) :
    (⟨(course host t opening texts s).running, (course host t opening texts s).state,
        (course host t opening texts s).ending⟩ : Step Dir World (Except ShellError SessionEnd)) =
      carryOut host (texts.filterMap t.tokenize) s := by
  induction texts generalizing s with
  | nil => rfl
  | cons text texts ih =>
    cases ht : t.tokenize text with
    | none =>
      have hline : executeLine host t text s = ⟨[], s, .ok .proceed⟩ := by simp [executeLine_eq, ht]
      have he : endingAfter (executeLine host t text s).result = none := by
        rw [hline]
        rfl
      rw [course_of_no_ending he, hline, List.filterMap_cons, ht, ← ih s]
      rfl
    | some args =>
      have hline : executeLine host t text s = dispatch host args s := by simp [executeLine_eq, ht]
      cases he : endingAfter (executeLine host t text s).result with
      | some ending =>
        rw [course_of_ending he, List.filterMap_cons, ht, carryOut, ← hline]
        simp [he, Course.running]
      | none =>
        rw [course_of_no_ending he, List.filterMap_cons, ht, carryOut, ← hline]
        simp only [he]
        rw [← ih]
        rfl

end

/-! ## Sessions -/

/-- A session over a source that gives pieces has the course over their lines, and takes one piece a
round. -/
theorem run_gives (frame : Frame Source Dir World) {opening : Trace}
    {say : List UInt8 → String} {R : Source → List (List UInt8) → Prop}
    (hg : frame.source.Gives frame.prompt opening say R) {source : Source}
    {pieces : List (List UInt8)} (hr : R source pieces) (s : State Dir World) :
    (run frame source s).course =
        course frame.host frame.tokenizer opening (pieces.map say) s ∧
      R (run frame source s).source (pieces.drop (run frame source s).rounds.length) := by
  induction pieces generalizing source s with
  | nil =>
    obtain ⟨hevents, houtcome, hsource, hworld⟩ := hg source [] s.world hr
    rcases hread : frame.source.read frame.prompt source s.world with ⟨events, o, source', world⟩
    simp only [hread] at hevents houtcome hsource hworld
    subst hevents houtcome hworld
    rw [run_of_ending hread rfl]
    exact ⟨rfl, hsource⟩
  | cons piece pieces ih =>
    obtain ⟨hevents, houtcome, hsource, hworld⟩ := hg source (piece :: pieces) s.world hr
    rcases hread : frame.source.read frame.prompt source s.world with ⟨events, o, source', world⟩
    simp only [hread] at hevents houtcome hsource hworld
    subst hevents houtcome hworld
    cases he : endingAfter (executeLine frame.host frame.tokenizer (say piece) s).result with
    | some ending =>
      rw [run_of_ending hread he, List.map_cons, course_of_ending he]
      exact ⟨rfl, hsource⟩
    | none =>
      obtain ⟨hcourse, hrest⟩ :=
        ih hsource (executeLine frame.host frame.tokenizer (say piece) s).state
      rw [run_of_no_ending hread he, List.map_cons, course_of_no_ending he, ← hcourse]
      exact ⟨rfl, hrest⟩

end Session

/-- A source of bytes gives the chunks of its bytes, decoded. -/
theorem BufferedSource.gives (maxLine : Nat) (prompt : String) :
    (lines World).Gives prompt [.prompted prompt] chunkLine fun s pieces =>
      s.Waits maxLine pieces.flatten ∧ chunks (chunkLimit maxLine) pieces.flatten = pieces := by
  rintro s pieces world ⟨hw, hpieces⟩
  obtain ⟨hevents, houtcome, hsource, hworld⟩ := hw.read prompt world
  have htail := chunks_tail (chunkLimit_pos maxLine) pieces.flatten
  have hcut := isGreedyCut_chunks (chunkLimit_pos maxLine) pieces.flatten
  rw [hpieces] at houtcome hsource htail hcut
  refine ⟨hevents, houtcome.trans ?_, ⟨hsource, htail⟩, hworld⟩
  cases pieces with
  | nil => rfl
  | cons piece pieces =>
    have hne : piece ≠ [] := hcut.nonempty piece (by simp)
    rw [List.head?_cons, Option.getD_some, ReadOutcome.ofChunk_of_ne_nil hne]
    rfl

namespace Session

/-- The pieces in which a session in some settings takes bytes. -/
abbrev piecesOf (settings : Settings) (bytes : List UInt8) : List (List UInt8) :=
  chunks (chunkLimit settings.maxLine) bytes

theorem flatten_piecesOf (settings : Settings) (bytes : List UInt8) :
    (piecesOf settings bytes).flatten = bytes :=
  (isGreedyCut_chunks (chunkLimit_pos settings.maxLine) bytes).whole

/-- The course over bytes in some settings, with a prompt at each reading. -/
def courseOver (host : Host Dir World) (settings : Settings) (bytes : List UInt8)
    (s : State Dir World) : Course Dir World :=
  course host { maxArgs := settings.maxArgs, mode := settings.split } [.prompted settings.prompt]
    ((piecesOf settings bytes).map chunkLine) s

/-- A session over bytes. -/
def overBytes (host : Host Dir World) (settings : Settings) (prompts : Sink) (bytes : List UInt8)
    (s : State Dir World) : Run BufferedSource Dir World :=
  run (.ofSettings host (BufferedSource.lines World) settings)
    { maxLine := settings.maxLine, prompts, input := { bytes } } s

/-- A session over bytes has the course over their pieces, and leaves those that it had no round
for. -/
theorem overBytes_course (host : Host Dir World) (settings : Settings) {prompts : Sink}
    (hp : prompts.IsHealthy) (bytes : List UInt8) (s : State Dir World) :
    let run := overBytes host settings prompts bytes s
    run.course = courseOver host settings bytes s ∧
      run.source.input.bytes = ((piecesOf settings bytes).drop run.rounds.length).flatten := by
  have hwhole := flatten_piecesOf settings bytes
  have hw : ({ maxLine := settings.maxLine, prompts, input := { bytes } } : BufferedSource).Waits
      settings.maxLine (piecesOf settings bytes).flatten := ⟨hp, rfl, by rw [hwhole]⟩
  obtain ⟨hcourse, hrest, -⟩ :=
    run_gives (.ofSettings host (BufferedSource.lines World) settings)
      (BufferedSource.gives settings.maxLine settings.prompt) ⟨hw, by rw [hwhole]⟩ s
  exact ⟨hcourse, congrArg ByteInput.bytes hrest.input_eq⟩

end Session

end LineShell
