import LineShell.Proofs.Breakdowns

/-!
# The directory of a session

The directory is the one thing that lines change in a session, and only a `cd` with a path changes
it. Where a session stands behind some lines is where the paths that they ask for lead, one after
the other: each is asked for in the directory that the ones before it led to, and one that cannot be
entered leads nowhere else.
-/

namespace LineShell

variable {Dir World Source : Type}

namespace Trace

/-- The attempts to change the directory. -/
def directories (trace : Trace) : List (String × Except IoError Unit) :=
  trace.filterMap Event.directory?

@[simp] theorem directories_nil : directories [] = [] := rfl

@[simp] theorem directories_append (a b : Trace) :
    directories (a ++ b) = a.directories ++ b.directories := List.filterMap_append

@[simp] theorem directories_changedDirectory (path : String) (result : Except IoError Unit)
    (trace : Trace) :
    directories (.changedDirectory path result :: trace) = (path, result) :: trace.directories :=
  rfl

@[simp] theorem directories_logged (record : Log.Record) (trace : Trace) :
    directories (.logged record :: trace) = trace.directories := rfl

@[simp] theorem directories_dispatched (args : ArgumentVector) (trace : Trace) :
    directories (.dispatched args :: trace) = trace.directories := rfl

@[simp] theorem directories_launched (args : ArgumentVector) (fault : Option IoError)
    (trace : Trace) : directories (.launched args fault :: trace) = trace.directories := rfl

@[simp] theorem directories_printed (text : String) (trace : Trace) :
    directories (.printed text :: trace) = trace.directories := rfl

@[simp] theorem directories_reported (text : String) (trace : Trace) :
    directories (.reported text :: trace) = trace.directories := rfl

/-- Programs do not change the directory of the shell. -/
@[simp] theorem directories_written (written : List (Stream × List UInt8)) :
    directories (written.map fun (stream, bytes) => .wrote stream bytes) = [] := by
  induction written with
  | nil => rfl
  | cons w written ih => exact ih

end Trace

theorem Trace.reports_logged (record : Log.Record) (trace : Trace) :
    reports (.logged record :: trace) = trace.reports :=
  congrArg Account.reports (account_logged record trace)

namespace Session

/-! ## Paths -/

/-- The path that a command asks for: the second token of a `cd`. -/
def pathOf? (args : ArgumentVector) : Option String :=
  if args.command = "cd" then args.get? 1 else none

/-- What a line with some command, or with none, asks for in some world. -/
def asksOf (world : World) (args? : Option ArgumentVector) : List (World × String) :=
  (args?.bind pathOf?).toList.map (world, ·)

/-- Goes where a path leads, or stays if it cannot be entered. -/
def enter (host : Host Dir World) (dir : Dir) (ask : World × String) : Dir :=
  match (host.chdir ask.1 dir ask.2).1 with
  | .ok entered => entered
  | .error _ => dir

theorem pathOf?_of_cd {args : ArgumentVector} (h : args.command = "cd") :
    pathOf? args = args.get? 1 := if_pos h

theorem pathOf?_of_ne {args : ArgumentVector} (h : args.command ≠ "cd") :
    pathOf? args = none := if_neg h

theorem ofName?_eq_cd_iff {text : String} : Builtin.ofName? text = some .cd ↔ text = "cd" := by
  constructor
  · intro h
    exact (Builtin.name_of_ofName? h).symm
  · rintro rfl
    rfl

/-! ## Commands -/

section

variable (host : Host Dir World) (args : ArgumentVector)

/-- A command leads where the path that it asks for leads. -/
theorem comesTo_dir (p : Place Dir World) :
    (comesTo host args p).2.dir = (asksOf p.world (some args)).foldl (enter host) p.dir := by
  by_cases hcd : args.command = "cd"
  · have hb := ofName?_eq_cd_iff.2 hcd
    cases hp : args.get? 1 with
    | none => simp [comesTo, hb, hp, asksOf, pathOf?_of_cd hcd]
    | some path =>
      rcases hc : host.chdir p.world p.dir path with ⟨cause | dir, world⟩ <;>
        simp [comesTo, hb, hp, hc, asksOf, pathOf?_of_cd hcd, enter]
  · have hstays : (comesTo host args p).2.dir = p.dir := by
      cases hb : Builtin.ofName? args.command with
      | none =>
        rcases hl : host.launch p.world p.dir args with ⟨cause | child, world⟩
        · simp [comesTo, hb, hl]
        · cases hw : child.waited <;> simp [comesTo, hb, hl, hw]
      | some b =>
        cases b with
        | cd => exact absurd (ofName?_eq_cd_iff.1 hb) hcd
        | exit => simp [comesTo, hb]
    rw [hstays, asksOf, Option.bind_some, pathOf?_of_ne hcd]
    rfl

end

/-- A line leads where the path that it asks for leads, whatever the sinks do. -/
theorem executeLine_dir (host : Host Dir World) (t : Tokenizer) (line : String)
    (s : State Dir World) :
    (executeLine host t line s).state.dir =
      (asksOf s.world (t.tokenize line)).foldl (enter host) s.dir := by
  cases ht : t.tokenize line with
  | none =>
    rw [executeLine_of_none ht]
    rfl
  | some args =>
    rw [executeLine_of_some ht]
    rcases flushed_or_unflushed args s with hflush | ⟨cause, hunflushed⟩
    · obtain ⟨step, account, out, hperform, ha⟩ := perform_eq_settle host hflush
      have hplace : (perform host args s).state.place = (comesTo host args s.place).2 := by
        rw [hperform, ha.settle_place]
      exact (congrArg Place.dir hplace).trans (comesTo_dir host args s.place)
    · have hcd : args.command ≠ "cd" := by
        intro hcd
        have hprogram := hunflushed.1
        rw [isProgram, ofName?_eq_cd_iff.2 hcd] at hprogram
        cases hprogram
      rw [perform_of_unflushed host hunflushed, asksOf, Option.bind_some, pathOf?_of_ne hcd]
      rfl

/-- What a line does about the system hangs on what the system does in the directory where the line
finds the session, and on nothing that it does elsewhere. -/
theorem executeLine_congr {host host' : Host Dir World} {s : State Dir World}
    (hc : ∀ world path, host'.chdir world s.dir path = host.chdir world s.dir path)
    (hl : ∀ world args, host'.launch world s.dir args = host.launch world s.dir args)
    (t : Tokenizer) (line : String) :
    executeLine host' t line s = executeLine host t line s := by
  have hcd : ∀ args,
      Builtin.changeDirectory host' args s = Builtin.changeDirectory host args s := by
    intro args
    simp only [Builtin.changeDirectory, hc]
  have hlaunch : ∀ args out,
      launch host' args { s with out } = launch host args { s with out } := by
    intro args out
    simp only [launch, hl]
  have hperform : ∀ args, perform host' args s = perform host args s := by
    intro args
    simp only [perform, external, hlaunch]
    cases Builtin.ofName? args.command with
    | none => rfl
    | some b =>
      cases b with
      | cd => simp only [Builtin.run, Builtin.act, hcd]
      | exit => rfl
  simp only [executeLine_eq, dispatch, hperform]

/-! ## What a line asks the system for -/

theorem directories_settle (step : Step Dir World (Except ShellError Flow)) :
    (settle step).events.directories = step.events.directories := by
  unfold settle
  cases step.result with
  | ok flow => rfl
  | error e => simp [report]

theorem directories_launch (host : Host Dir World) (args : ArgumentVector) (s : State Dir World) :
    (launch host args s).events.directories = [] := by
  rcases hl : host.launch s.world s.dir args with ⟨cause | child, world⟩
  · simp [launch, hl]
  · cases hw : child.waited with
    | error cause => simp [launch, hl, hw]
    | ok status => cases hs : status.success <;> simp [launch, hl, hw, hs]

theorem directories_changeDirectory (host : Host Dir World) (args : ArgumentVector)
    (s : State Dir World) :
    (Builtin.changeDirectory host args s).events.directories =
      (args.get? 1).toList.map fun path =>
        (path, (host.chdir s.world s.dir path).1.map fun _ => ()) := by
  cases hp : args.get? 1 with
  | none => simp [Builtin.changeDirectory, hp]
  | some path =>
    rcases hc : host.chdir s.world s.dir path with ⟨cause | dir, world⟩ <;>
      simp [Builtin.changeDirectory, hp, hc, Except.map]

theorem directories_leave (s : State Dir World) :
    (Builtin.leave s).events.directories = [] := by
  cases hf : (s.out.deliver Builtin.farewell).fault <;> simp [Builtin.leave, hf]

theorem directories_announce (args : ArgumentVector) : (announce args).directories = [] := by
  unfold announce
  cases args.truncated <;> simp

/-- A line asks for the path of its command, in the directory where it finds the session. -/
theorem executeLine_directories (host : Host Dir World) (t : Tokenizer) (line : String)
    (s : State Dir World) :
    (executeLine host t line s).events.directories =
      (asksOf s.world (t.tokenize line)).map fun ask =>
        (ask.2, (host.chdir ask.1 s.dir ask.2).1.map fun _ => ()) := by
  cases ht : t.tokenize line with
  | none =>
    rw [executeLine_of_none ht]
    rfl
  | some args =>
    rw [executeLine_of_some ht, Trace.directories_append, directories_announce, List.nil_append]
    unfold perform
    cases hb : Builtin.ofName? args.command with
    | none =>
      have hcd : args.command ≠ "cd" := by
        intro hcd
        cases hb.symm.trans (ofName?_eq_cd_iff.2 hcd)
      rw [asksOf, Option.bind_some, pathOf?_of_ne hcd]
      cases hf : s.out.flush.fault with
      | some fault => simp [external, hf]
      | none =>
        simp only [external, hf, directories_settle, directories_launch]
        rfl
    | some b =>
      cases b with
      | cd =>
        have hcd := ofName?_eq_cd_iff.1 hb
        simp only [directories_settle, Builtin.run, Builtin.act, Trace.directories_logged,
          directories_changeDirectory, asksOf, Option.bind_some, pathOf?_of_cd hcd]
        rw [List.map_map]
        rfl
      | exit =>
        have hcd : args.command ≠ "cd" := by
          intro hcd
          cases hb.symm.trans (ofName?_eq_cd_iff.2 hcd)
        simp only [directories_settle, Builtin.run, Builtin.act, Trace.directories_logged,
          directories_leave, asksOf, Option.bind_some, pathOf?_of_ne hcd]
        rfl

/-! ## What comes of a `cd` -/

/-- A step that reports an error, whether or not the report is taken. -/
structure Reports (step : Step Dir World (Except IoError Flow)) (s : State Dir World)
    (e : ShellError) : Prop where
  said_eq : step.events.reports = (s.err.deliver e.report).taken
  sink_eq : step.state.err = (s.err.deliver e.report).sink
  result_eq : step.result = match (s.err.deliver e.report).fault with
    | some fault => .error fault
    | none => .ok .proceed

section

variable {host : Host Dir World} {t : Tokenizer} {line : String} {args : ArgumentVector}
  {s : State Dir World}

theorem reports_announce (args : ArgumentVector) (record : Log.Record) (trace : Trace) :
    Trace.reports (announce args ++ .logged record :: trace) = trace.reports := by
  have hannounced : (announce args).reports = "" :=
    congrArg Account.reports (account_announce args)
  rw [Trace.reports_append, Trace.reports_logged, hannounced, String.empty_append]

theorem executeLine_of_cd (ht : t.tokenize line = some args) (hcd : args.command = "cd") :
    executeLine host t line s =
      let tried := Builtin.changeDirectory host args s
      let settled := settle ⟨.logged (Log.debug "builtin: cd") :: tried.events, tried.state,
        tried.result.mapError .command⟩
      { settled with events := announce args ++ settled.events } := by
  rw [executeLine_of_some ht]
  simp only [perform, ofName?_eq_cd_iff.2 hcd]
  rfl

/-- A `cd` that fails reports its error, and is where it was when it failed. -/
theorem executeLine_of_cd_error (ht : t.tokenize line = some args) (hcd : args.command = "cd")
    {events : Trace} {s' : State Dir World} {e : CommandError}
    (htried : Builtin.changeDirectory host args s = ⟨events, s', .error e⟩)
    (herr : s'.err = s.err) (hsaid : events.reports = "") :
    Reports (executeLine host t line s) s (.command e) ∧
      (executeLine host t line s).state.place = s'.place := by
  rw [executeLine_of_cd ht hcd, htried]
  have hmapped : (Except.error e : Except CommandError Flow).mapError ShellError.command =
      .error (.command e) := rfl
  simp only [hmapped, settle, report, herr]
  refine ⟨⟨?_, rfl, rfl⟩, rfl⟩
  rw [List.cons_append, reports_announce, Trace.reports_append, hsaid]
  simp [Trace.reports, Event.report]

/-- One that does not fail says nothing. -/
theorem executeLine_of_cd_ok (ht : t.tokenize line = some args) (hcd : args.command = "cd")
    {events : Trace} {s' : State Dir World}
    (htried : Builtin.changeDirectory host args s = ⟨events, s', .ok .proceed⟩)
    (hsaid : events.reports = "") :
    (executeLine host t line s).events.reports = "" ∧
      (executeLine host t line s).result = .ok .proceed ∧
      (executeLine host t line s).state = s' := by
  rw [executeLine_of_cd ht hcd, htried]
  exact ⟨(reports_announce args _ events).trans hsaid, rfl, rfl⟩

/-- What comes of a `cd` in the directory where it finds the session. -/
structure ChangesDirectory (host : Host Dir World) (args : ArgumentVector) (s : State Dir World)
    (step : Step Dir World (Except IoError Flow)) : Prop where
  /-- Without a path it is an error, and changes nothing. -/
  missing : args.tokens = ["cd"] →
    Reports step s (.command (.missingArgument "cd")) ∧ step.state.place = s.place
  /-- A path that can be entered is entered; the tokens behind it say nothing. -/
  entered : ∀ path ignored dir, args.tokens = "cd" :: path :: ignored →
    (host.chdir s.world s.dir path).1 = .ok dir →
    step.state.dir = dir ∧ step.events.reports = "" ∧ step.result = .ok .proceed
  /-- Any other path is an error that names it as it was typed, and the session stays. -/
  refused : ∀ path ignored cause, args.tokens = "cd" :: path :: ignored →
    (host.chdir s.world s.dir path).1 = .error cause →
    Reports step s (.command (.changeDirectory path cause)) ∧ step.state.dir = s.dir

theorem executeLine_changesDirectory (ht : t.tokenize line = some args) :
    ChangesDirectory host args s (executeLine host t line s) := by
  refine ⟨fun htokens => ?_, fun path ignored dir htokens hc => ?_,
    fun path ignored cause htokens hc => ?_⟩
  · obtain ⟨hcd, -⟩ := List.cons.inj htokens
    have hp : args.get? 1 = none := by simp [ArgumentVector.get?, htokens]
    have htried : Builtin.changeDirectory host args s =
        ⟨[], s, .error (.missingArgument "cd")⟩ := by
      simp only [Builtin.changeDirectory, hp]
      rfl
    exact executeLine_of_cd_error ht hcd htried rfl rfl
  · obtain ⟨hcd, -⟩ := List.cons.inj htokens
    have hp : args.get? 1 = some path := by simp [ArgumentVector.get?, htokens]
    obtain ⟨world, hchdir⟩ : ∃ world, host.chdir s.world s.dir path = (.ok dir, world) :=
      ⟨_, Prod.ext hc rfl⟩
    have htried : Builtin.changeDirectory host args s =
        ⟨[.changedDirectory path (.ok ()),
          .logged (Log.debug ("working directory changed to " ++ path))],
          { s with world, dir }, .ok .proceed⟩ := by
      simp only [Builtin.changeDirectory, hp, hchdir]
    obtain ⟨hsaid, hresult, hstate⟩ := executeLine_of_cd_ok ht hcd htried rfl
    exact ⟨congrArg State.dir hstate, hsaid, hresult⟩
  · obtain ⟨hcd, -⟩ := List.cons.inj htokens
    have hp : args.get? 1 = some path := by simp [ArgumentVector.get?, htokens]
    obtain ⟨world, hchdir⟩ : ∃ world, host.chdir s.world s.dir path = (.error cause, world) :=
      ⟨_, Prod.ext hc rfl⟩
    have htried : Builtin.changeDirectory host args s =
        ⟨[.changedDirectory path (.error cause)], { s with world },
          .error (.changeDirectory path cause)⟩ := by
      simp only [Builtin.changeDirectory, hp, hchdir]
    obtain ⟨hreports, hplace⟩ := executeLine_of_cd_error ht hcd htried rfl rfl
    exact ⟨hreports, congrArg Place.dir hplace⟩

end

/-! ## Many lines -/

/-- The state behind some lines, each of which is run whatever comes of those before it. -/
def stateAfter (host : Host Dir World) (t : Tokenizer) (lines : List String) (s : State Dir World) :
    State Dir World :=
  lines.foldl (fun s line => (executeLine host t line s).state) s

/-- What lines ask for, each in the world that it finds. -/
def asksAlong (host : Host Dir World) (t : Tokenizer) :
    List String → State Dir World → List (World × String)
  | [], _ => []
  | line :: lines, s =>
    asksOf s.world (t.tokenize line) ++ asksAlong host t lines (executeLine host t line s).state

theorem stateAfter_dir (host : Host Dir World) (t : Tokenizer) (lines : List String)
    (s : State Dir World) :
    (stateAfter host t lines s).dir = (asksAlong host t lines s).foldl (enter host) s.dir := by
  induction lines generalizing s with
  | nil => rfl
  | cons line lines ih =>
    rw [asksAlong, List.foldl_append, ← executeLine_dir, ← ih]
    rfl

end Session

/-! ## Stages -/

namespace Stage

variable (frame : Session.Frame Source Dir World)

/-- What is asked for at a stage. -/
def asks (p : Stage Source Dir World) : List (World × String) :=
  Session.asksOf (p.ready frame).world
    (Session.commandOf? frame.tokenizer (p.reading frame).outcome)

theorem next_dir (p : Stage Source Dir World) :
    (p.next frame).state.dir = (p.asks frame).foldl (Session.enter frame.host) p.state.dir := by
  unfold next reaction asks
  rcases (p.reading frame).outcome with e | outcome
  · rfl
  · cases outcome with
    | line text => exact Session.executeLine_dir frame.host frame.tokenizer text (p.ready frame)
    | interrupted => rfl
    | endOfInput => rfl

/-- A stage stands where the asks of the stages before it lead. -/
theorem after_dir (n : Nat) (p : Stage Source Dir World) :
    (after frame n p).state.dir =
      ((List.range n).flatMap fun i => (after frame i p).asks frame).foldl
        (Session.enter frame.host) p.state.dir := by
  induction n generalizing p with
  | zero => rfl
  | succ n ih =>
    rw [List.range_succ_eq_map, List.flatMap_cons, List.foldl_append, List.flatMap_map]
    refine (ih (p.next frame)).trans ?_
    rw [next_dir]
    rfl

end Stage

namespace Session

/-- The directory of a session is where the second tokens of its `cd`s lead, one after the other,
whatever the sinks and the programs do: each is asked for in the directory that those before it led
to, one that can be entered is entered, and at any other the session stays and says which it was.
What a line asks the system for otherwise, it asks for in that directory too. -/
theorem dir_follows_asks (frame : Frame Source Dir World) :
    (∀ (line : String) (s : State Dir World),
      let step := executeLine frame.host frame.tokenizer line s
      let asks := asksOf s.world (frame.tokenizer.tokenize line)
      step.state.dir = asks.foldl (enter frame.host) s.dir ∧
      (step.events.directories = asks.map fun ask =>
        (ask.2, (frame.host.chdir ask.1 s.dir ask.2).1.map fun _ => ())) ∧
      (∀ args, frame.tokenizer.tokenize line = some args →
        ChangesDirectory frame.host args s step) ∧
      ∀ host : Host Dir World,
        (∀ world path, host.chdir world s.dir path = frame.host.chdir world s.dir path) →
        (∀ world args, host.launch world s.dir args = frame.host.launch world s.dir args) →
        executeLine host frame.tokenizer line s = step) ∧
    (∀ (lines : List String) (s : State Dir World),
      (stateAfter frame.host frame.tokenizer lines s).dir =
        (asksAlong frame.host frame.tokenizer lines s).foldl (enter frame.host) s.dir) ∧
    ∀ (source : Source) (s : State Dir World),
      let stage := fun i => Stage.after frame i ⟨source, s⟩
      (∀ i, ((stage i).ready frame).dir = (stage i).state.dir ∧
        (stage i).state.dir =
          ((List.range i).flatMap fun j => (stage j).asks frame).foldl (enter frame.host) s.dir) ∧
      ∃ n, (run frame source s).rounds =
          (List.range (n + 1)).map (fun i => (stage i).round frame) ∧
        (run frame source s).state.dir =
          ((List.range (n + 1)).flatMap fun j => (stage j).asks frame).foldl (enter frame.host)
            s.dir := by
  refine ⟨fun line s => ⟨?_, ?_, fun args ht => ?_, fun host hc hl => ?_⟩, ?_, ?_⟩
  · exact executeLine_dir frame.host frame.tokenizer line s
  · exact executeLine_directories frame.host frame.tokenizer line s
  · exact executeLine_changesDirectory ht
  · exact executeLine_congr hc hl frame.tokenizer line
  · exact stateAfter_dir frame.host frame.tokenizer
  · intro source s stage
    obtain ⟨n, -, -, hrounds, hend⟩ := run_stages frame source s
    have hstage : ∀ i, (stage i).state.dir =
        ((List.range i).flatMap fun j => (stage j).asks frame).foldl (enter frame.host) s.dir :=
      fun i => Stage.after_dir frame i ⟨source, s⟩
    refine ⟨fun i => ⟨rfl, hstage i⟩, n, hrounds, ?_⟩
    have hlast : (run frame source s).state = (stage (n + 1)).state := congrArg Stage.state hend
    rw [← hstage (n + 1), hlast]

/-- Directories that can be entered once a program has run: a `cd` before that, two of them behind
it, and one without a path. Neither sink takes anything. -/
theorem dir_follows_asks_in_vain :
    let host : Host (List String) Nat :=
      { chdir := fun world dir path =>
          (if world = 0 then .error (.os 2) else .ok (path :: dir), world)
        launch := fun world _ _ => (.error (.os 2), world + 1) }
    let frame := Frame.ofSettings host (Script.lines Nat) {}
    let lines := ["cd a", "mkdir a", "cd a b", "cd", "cd c"]
    let s : State (List String) Nat := ⟨[], 0, .full, .full⟩
    (stateAfter host frame.tokenizer lines s).dir = ["c", "a"] ∧
      Reports (executeLine host frame.tokenizer "cd a" s) s
        (.command (.changeDirectory "a" (.os 2))) := by
  intro host frame lines s
  obtain ⟨hline, hlines, -⟩ := dir_follows_asks frame
  have ht : frame.tokenizer.tokenize "cd a" = some ⟨"cd", ["a"], false⟩ := by decide +kernel
  obtain ⟨-, -, hcd, -⟩ := hline "cd a" s
  refine ⟨(hlines lines s).trans ?_, ((hcd _ ht).refused "a" [] (.os 2) rfl rfl).1⟩
  decide +kernel

end Session

end LineShell
