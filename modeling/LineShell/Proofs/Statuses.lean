import LineShell.Proofs.Directories
import Mathlib.Data.List.Forall2

/-!
# Statuses and records

How a program ends is written to the log and nowhere else. Two sessions whose programs differ in
their statuses alone do the same in every round, the records aside, and whoever does not read the
log cannot tell them apart, whatever is shown of it.
-/

namespace LineShell

variable {Dir World World' Source : Type}

/-! ## The log aside -/

/-- Whether an event is a record. -/
def Event.isRecord : Event → Bool
  | .logged _ => true
  | _ => false

/-- Whether an event is there for an observer who is shown records up to a threshold. -/
def Event.isShown (threshold : Log.Threshold) : Event → Bool
  | .logged record => threshold.admits record.level
  | _ => true

namespace Trace

/-- What happened, the records aside. -/
def unlogged (trace : Trace) : Trace := trace.filter fun event => !event.isRecord

/-- What happened, with the records up to a threshold. -/
def shown (threshold : Log.Threshold) (trace : Trace) : Trace :=
  trace.filter (Event.isShown threshold)

@[simp] theorem unlogged_nil : unlogged [] = [] := rfl

@[simp] theorem unlogged_append (a b : Trace) : unlogged (a ++ b) = a.unlogged ++ b.unlogged :=
  List.filter_append a b

@[simp] theorem unlogged_logged (record : Log.Record) (trace : Trace) :
    unlogged (.logged record :: trace) = trace.unlogged := rfl

theorem unlogged_other {event : Event} (h : event.isRecord = false) (trace : Trace) :
    unlogged (event :: trace) = event :: trace.unlogged :=
  List.filter_cons_of_pos (by simp [h])

@[simp] theorem unlogged_launched (args : ArgumentVector) (fault : Option IoError)
    (trace : Trace) :
    unlogged (.launched args fault :: trace) = .launched args fault :: trace.unlogged :=
  unlogged_other rfl trace

@[simp] theorem unlogged_written (written : List (Stream × List UInt8)) :
    unlogged (written.map fun (stream, bytes) => .wrote stream bytes) =
      written.map fun (stream, bytes) => .wrote stream bytes := by
  induction written with
  | nil => rfl
  | cons w written ih => rw [List.map_cons, unlogged_other rfl, ih]

/-- A threshold decides about records only. -/
theorem unlogged_shown (threshold : Log.Threshold) (trace : Trace) :
    (trace.shown threshold).unlogged = trace.unlogged := by
  unfold shown unlogged
  rw [List.filter_filter]
  congr 1
  funext event
  cases event <;> simp [Event.isRecord, Event.isShown]

/-- What an observer gathers to whom records are nothing is in the rest. -/
theorem flatMap_unlogged {α : Type} {f : Event → List α} (h : ∀ record, f (.logged record) = [])
    (trace : Trace) : trace.unlogged.flatMap f = trace.flatMap f := by
  induction trace with
  | nil => rfl
  | cons event trace ih =>
    cases event with
    | logged record => rw [unlogged_logged, ih, List.flatMap_cons, h, List.nil_append]
    | _ => rw [unlogged_other rfl, List.flatMap_cons, ih, List.flatMap_cons]

/-- What an observer picks to whom records are nothing is in the rest. -/
theorem filterMap_unlogged {α : Type} {f : Event → Option α}
    (h : ∀ record, f (.logged record) = none) (trace : Trace) :
    trace.unlogged.filterMap f = trace.filterMap f := by
  unfold unlogged
  rw [List.filterMap_filter]
  congr 1
  funext event
  cases event <;> simp [Event.isRecord, h]

/-- What an observer reads to whom records are empty is in the rest. -/
theorem join_unlogged {f : Event → String} (h : ∀ record, f (.logged record) = "")
    (trace : Trace) : String.join (trace.unlogged.map f) = String.join (trace.map f) := by
  induction trace with
  | nil => rfl
  | cons event trace ih =>
    cases event with
    | logged record =>
      rw [unlogged_logged, ih, List.map_cons, h, String.join_cons, String.empty_append]
    | _ => rw [unlogged_other rfl, List.map_cons, String.join_cons, ih, List.map_cons,
        String.join_cons]

end Trace

theorem bytesOn_flatMap {α : Type} (stream : Stream) (f : α → List (Stream × List UInt8))
    (l : List α) : bytesOn stream (l.flatMap f) = l.flatMap fun a => bytesOn stream (f a) := by
  simp only [bytesOn, List.filter_flatMap, List.flatMap_assoc]

/-- Nothing of the log is on the output, and what is shown of it changes nothing there. -/
theorem Trace.bytesOn_output_unlogged (threshold threshold' : Log.Threshold)
    (showLevel showLevel' : Log.Level → String) (trace : Trace) :
    bytesOn .output (trace.unlogged.standard threshold' showLevel') =
      bytesOn .output (trace.standard threshold showLevel) := by
  have hevent : ∀ event : Event, bytesOn .output (event.standard threshold' showLevel') =
      bytesOn .output (event.standard threshold showLevel) := fun event => by cases event <;> rfl
  simp only [standard, bytesOn_flatMap, hevent]
  exact flatMap_unlogged (fun record => rfl) trace

/-- What is seen of two sessions by one who does not read the log is the same. -/
structure Trace.LookAlike (seen seen' : Trace) : Prop where
  prompts_eq : seen.prompts = seen'.prompts
  output_eq : seen.output = seen'.output
  reports_eq : seen.reports = seen'.reports
  launches_eq : seen.launches = seen'.launches
  directories_eq : seen.directories = seen'.directories

theorem Trace.lookAlike_of_unlogged {seen seen' : Trace} (h : seen.unlogged = seen'.unlogged) :
    seen.LookAlike seen' := by
  have htexts : ∀ f : Event → String, (∀ record, f (.logged record) = "") →
      String.join (seen.map f) = String.join (seen'.map f) := fun f hf => by
    rw [← join_unlogged hf, h, join_unlogged hf]
  have hattempts : ∀ {α : Type} (f : Event → Option α), (∀ record, f (.logged record) = none) →
      seen.filterMap f = seen'.filterMap f := fun f hf => by
    rw [← filterMap_unlogged hf, h, filterMap_unlogged hf]
  exact ⟨htexts _ fun _ => rfl, htexts _ fun _ => rfl, htexts _ fun _ => rfl,
    hattempts _ fun _ => rfl, hattempts _ fun _ => rfl⟩

/-! ## Alike but for statuses -/

/-- What a session does not merely log of a child. -/
structure Child.Seen where
  written : List (Stream × List UInt8)
  /-- Whether it could be waited for. -/
  waited : Except IoError Unit

/-- A child without its number and its status. -/
def Child.seen (child : Child) : Child.Seen := ⟨child.written, child.waited.map fun _ => ()⟩

/-- Two hosts differ in the statuses of their programs: in related worlds they enter the same
directories and start the same programs, which write the same. What a status leaves in the worlds is
up to the relation. -/
structure Host.Alike (R : World → World' → Prop) (host : Host Dir World) (host' : Host Dir World') :
    Prop where
  chdir {world world'} (h : R world world') (dir : Dir) (path : String) :
    (host.chdir world dir path).1 = (host'.chdir world' dir path).1 ∧
      R (host.chdir world dir path).2 (host'.chdir world' dir path).2
  launch {world world'} (h : R world world') (dir : Dir) (args : ArgumentVector) :
    (host.launch world dir args).1.map Child.seen =
        (host'.launch world' dir args).1.map Child.seen ∧
      R (host.launch world dir args).2 (host'.launch world' dir args).2

/-- Two sources give the same in related worlds. -/
def LineSource.Alike (R : World → World' → Prop) (lines : LineSource Source World)
    (lines' : LineSource Source World') : Prop :=
  ∀ prompt source world world', R world world' →
    (lines.read prompt source world).events.unlogged =
        (lines'.read prompt source world').events.unlogged ∧
      (lines.read prompt source world).outcome = (lines'.read prompt source world').outcome ∧
      (lines.read prompt source world).source = (lines'.read prompt source world').source ∧
      R (lines.read prompt source world).world (lines'.read prompt source world').world

/-- A script looks at no world, and neither do the readers of bytes. -/
theorem Script.lines_alike (R : World → World' → Prop) :
    (Script.lines World).Alike R (Script.lines World') := by
  intro prompt source world world' h
  cases hf : (source.prompts.deliver prompt).fault <;> simp [Script.lines, Script.read, hf, h]

theorem BufferedSource.lines_alike (R : World → World' → Prop) :
    (BufferedSource.lines World).Alike R (BufferedSource.lines World') := by
  intro prompt source world world' h
  cases hf : (source.prompts.deliver prompt).fault <;>
    simp [BufferedSource.lines, BufferedSource.read, hf, h]

theorem LineEditor.lines_alike (R : World → World' → Prop) :
    (LineEditor.lines World).Alike R (LineEditor.lines World') :=
  fun _ _ _ _ h => ⟨rfl, rfl, rfl, h⟩

/-- Editors that are alike stay so if their lines are cut. -/
theorem LineSource.Alike.cut {R : World → World' → Prop} {lines : LineSource Source World}
    {lines' : LineSource Source World'} (h : lines.Alike R lines') (maxLine : Nat) :
    (lines.cut maxLine).Alike R (lines'.cut maxLine) := by
  intro prompt source world world' hR
  obtain ⟨hevents, houtcome, hsource, hworld⟩ := h prompt source world world' hR
  simp only [LineSource.cut, LineSource.readCut, houtcome, Trace.unlogged_append, hevents]
  exact ⟨trivial, trivial, hsource, hworld⟩

/-- Two states differ in related worlds alone. -/
structure State.Alike (R : World → World' → Prop) (s : State Dir World) (s' : State Dir World') :
    Prop where
  dir_eq : s.dir = s'.dir
  world : R s.world s'.world
  out_eq : s.out = s'.out
  err_eq : s.err = s'.err

/-- Two steps do the same, the records aside. -/
structure Step.Alike {Result : Type} (R : World → World' → Prop) (step : Step Dir World Result)
    (step' : Step Dir World' Result) : Prop where
  events_eq : step.events.unlogged = step'.events.unlogged
  state : step.state.Alike R step'.state
  result_eq : step.result = step'.result

namespace Session

/-- Two rounds are the same, the records aside. -/
structure Round.Alike (R : World → World' → Prop) (r : Round Dir World) (r' : Round Dir World') :
    Prop where
  reading_eq : r.reading.unlogged = r'.reading.unlogged
  outcome_eq : r.outcome = r'.outcome
  running_eq : r.running.unlogged = r'.running.unlogged
  after : r.after.Alike R r'.after

/-- Two sessions are the same round by round, the records aside, and end the same. -/
structure Run.Alike (R : World → World' → Prop) (run : Run Source Dir World)
    (run' : Run Source Dir World') : Prop where
  rounds : List.Forall₂ (Round.Alike R) run.rounds run'.rounds
  ending_eq : run.ending = run'.ending
  source_eq : run.source = run'.source
  state : run.state.Alike R run'.state

/-! ## Launches -/

/-- What a launch does besides logging. -/
def launchEvents (args : ArgumentVector) : Except IoError Child.Seen → Trace
  | .error cause => [.launched args (some cause)]
  | .ok seen => .launched args none :: seen.written.map fun (stream, bytes) => .wrote stream bytes

/-- What comes of a launch. -/
def launchResult (args : ArgumentVector) : Except IoError Child.Seen → Except ShellError Flow
  | .error cause => .error (.process (.ofLaunch args.command cause))
  | .ok seen => (seen.waited.mapError fun cause => .process (.wait cause)).map fun _ => .proceed

/-- A launch uses the status of the program for its records and for nothing else. -/
theorem launch_seen (host : Host Dir World) (args : ArgumentVector) (s : State Dir World) :
    let step := launch host args s
    let seen := (host.launch s.world s.dir args).1.map Child.seen
    step.events.unlogged = launchEvents args seen ∧
      step.state = { s with world := (host.launch s.world s.dir args).2 } ∧
      ((step.result.mapError .process).map fun _ => .proceed) = launchResult args seen := by
  rcases hl : host.launch s.world s.dir args with ⟨cause | child, world⟩
  · simp [launch, hl, launchEvents, launchResult, Except.map, Except.mapError]
  · cases hw : child.waited with
    | error cause =>
      simp [launch, hl, hw, launchEvents, launchResult, Child.seen, Except.map, Except.mapError]
    | ok status =>
      by_cases hsuccess : status.success = true <;>
        simp [launch, hl, hw, hsuccess, launchEvents, launchResult, Child.seen, Except.map,
          Except.mapError]

/-! ## Steps -/

section

variable {R : World → World' → Prop} {host : Host Dir World} {host' : Host Dir World'}
  {s : State Dir World} {s' : State Dir World'}

theorem settle_alike {step : Step Dir World (Except ShellError Flow)}
    {step' : Step Dir World' (Except ShellError Flow)} (h : step.Alike R step') :
    (settle step).Alike R (settle step') := by
  obtain ⟨hevents, hs, hresult⟩ := h
  unfold settle
  rw [hresult]
  cases step'.result with
  | ok flow => exact ⟨hevents, hs, rfl⟩
  | error e =>
    unfold report
    rw [hs.err_eq]
    refine ⟨?_, ⟨hs.dir_eq, hs.world, hs.out_eq, rfl⟩, rfl⟩
    simp only [Trace.unlogged_append, hevents]

theorem external_alike (hh : host.Alike R host') (args : ArgumentVector) (hs : s.Alike R s') :
    (external host args s).Alike R (external host' args s') := by
  rcases s with ⟨dir, world, out, err⟩
  rcases s' with ⟨dir', world', out', err'⟩
  obtain ⟨rfl, hw, rfl, rfl⟩ := hs
  cases hf : out.flush.fault with
  | some fault =>
    simp only [external, hf]
    exact ⟨rfl, ⟨rfl, hw, rfl, rfl⟩, rfl⟩
  | none =>
    simp only [external, hf]
    apply settle_alike
    obtain ⟨hevents, hstate, hresult⟩ := launch_seen host args ⟨dir, world, out.flush.sink, err⟩
    obtain ⟨hevents', hstate', hresult'⟩ :=
      launch_seen host' args ⟨dir, world', out.flush.sink, err⟩
    obtain ⟨hseen, hworld⟩ := hh.launch hw dir args
    refine ⟨?_, ?_, ?_⟩
    · exact hevents.trans ((congrArg (launchEvents args) hseen).trans hevents'.symm)
    · simp only [hstate, hstate']
      exact ⟨rfl, hworld, rfl, rfl⟩
    · exact hresult.trans ((congrArg (launchResult args) hseen).trans hresult'.symm)

theorem changeDirectory_alike (hh : host.Alike R host') (args : ArgumentVector)
    (hs : s.Alike R s') :
    (Builtin.changeDirectory host args s).Alike R (Builtin.changeDirectory host' args s') := by
  rcases s with ⟨dir, world, out, err⟩
  rcases s' with ⟨dir', world', out', err'⟩
  obtain ⟨rfl, hw, rfl, rfl⟩ := hs
  cases hp : args.get? 1 with
  | none =>
    simp only [Builtin.changeDirectory, hp]
    exact ⟨rfl, ⟨rfl, hw, rfl, rfl⟩, rfl⟩
  | some path =>
    obtain ⟨hentered, hworld⟩ := hh.chdir hw dir path
    rcases hc : host.chdir world dir path with ⟨outcome, later⟩
    rcases hc' : host'.chdir world' dir path with ⟨outcome', later'⟩
    simp only [hc, hc'] at hentered hworld
    subst hentered
    simp only [Builtin.changeDirectory, hp, hc, hc']
    cases outcome with
    | error cause => exact ⟨rfl, ⟨rfl, hworld, rfl, rfl⟩, rfl⟩
    | ok entered => exact ⟨rfl, ⟨rfl, hworld, rfl, rfl⟩, rfl⟩

theorem leave_alike (hs : s.Alike R s') : (Builtin.leave s).Alike R (Builtin.leave s') := by
  unfold Builtin.leave
  rw [hs.out_eq]
  exact ⟨rfl, ⟨hs.dir_eq, hs.world, rfl, hs.err_eq⟩, rfl⟩

theorem perform_alike (hh : host.Alike R host') (args : ArgumentVector) (hs : s.Alike R s') :
    (perform host args s).Alike R (perform host' args s') := by
  unfold perform
  cases Builtin.ofName? args.command with
  | none => exact external_alike hh args hs
  | some b =>
    have hact : (b.act host args s).Alike R (b.act host' args s') := by
      cases b with
      | cd => exact changeDirectory_alike hh args hs
      | exit => exact leave_alike hs
    exact settle_alike ⟨hact.events_eq, hact.state,
      congrArg (Except.mapError ShellError.command) hact.result_eq⟩

/-- A line does the same on hosts that differ in statuses. -/
theorem executeLine_alike (hh : host.Alike R host') (t : Tokenizer) (line : String)
    (hs : s.Alike R s') : (executeLine host t line s).Alike R (executeLine host' t line s') := by
  rw [executeLine_eq, executeLine_eq]
  cases t.tokenize line with
  | none => exact ⟨rfl, hs, rfl⟩
  | some args =>
    obtain ⟨hevents, hstate, hresult⟩ := perform_alike hh args hs
    refine ⟨?_, hstate, hresult⟩
    simp only [dispatch, Trace.unlogged_append, hevents]

/-- So does what follows any reading. -/
theorem react_alike (hh : host.Alike R host') (t : Tokenizer)
    (outcome : Except ShellError ReadOutcome) (hs : s.Alike R s') :
    (react host t outcome s).Alike R (react host' t outcome s') := by
  match outcome with
  | .error e => exact ⟨rfl, hs, rfl⟩
  | .ok .endOfInput => exact ⟨rfl, hs, rfl⟩
  | .ok .interrupted => exact ⟨rfl, hs, rfl⟩
  | .ok (.line text) =>
    obtain ⟨hevents, hstate, hresult⟩ := executeLine_alike hh t text hs
    exact ⟨hevents, hstate, congrArg endingAfter hresult⟩

end

/-! ## Sessions -/

section

variable {R : World → World' → Prop} {host : Host Dir World} {host' : Host Dir World'}
  {lines : LineSource Source World} {lines' : LineSource Source World'}

/-- Sessions that are the same round by round are the same as a whole. -/
theorem Run.Alike.events_eq {run : Run Source Dir World} {run' : Run Source Dir World'}
    (h : run.Alike R run') : run.events.unlogged = run'.events.unlogged := by
  have hflat : ∀ {rounds : List (Round Dir World)} {rounds' : List (Round Dir World')},
      List.Forall₂ (Round.Alike R) rounds rounds' →
        Trace.unlogged (rounds.flatMap Round.events) =
          Trace.unlogged (rounds'.flatMap Round.events) := by
    intro rounds rounds' hrounds
    induction hrounds with
    | nil => rfl
    | cons hround _ ih =>
      simp only [List.flatMap_cons, Round.events, Trace.unlogged_append, hround.reading_eq,
        hround.running_eq, ih]
  exact hflat h.rounds

/-- Round by round, sessions on hosts that differ in statuses do the same. -/
theorem run_alike (hh : host.Alike R host') (hl : lines.Alike R lines') (t : Tokenizer)
    (prompt : String) (source : Source) {s : State Dir World} {s' : State Dir World'}
    (hs : s.Alike R s') :
    (run ⟨host, lines, t, prompt⟩ source s).Alike R (run ⟨host', lines', t, prompt⟩ source s') := by
  -- Each round that ends nothing leaves less to read.
  induction hleft : lines.left source using Nat.strongRecOn generalizing source s s' with
  | ind left ih =>
    obtain ⟨hevents, houtcome, hsource, hworld⟩ := hl prompt source s.world s'.world hs.world
    rcases hread : lines.read prompt source s.world with ⟨events, outcome, later, world⟩
    rcases hread' : lines'.read prompt source s'.world with ⟨events', outcome', later', world'⟩
    simp only [hread, hread'] at hevents houtcome hsource hworld
    subst houtcome hsource
    have hread_alike : State.Alike R { s with world } { s' with world := world' } :=
      ⟨hs.dir_eq, hworld, hs.out_eq, hs.err_eq⟩
    have hreact := react_alike hh t outcome hread_alike
    cases he' : (react host' t outcome { s' with world := world' }).result with
    | some ending =>
      have he := hreact.result_eq.trans he'
      rw [run_of_ending hread he, run_of_ending hread' he']
      exact ⟨.cons ⟨hevents, rfl, hreact.events_eq, hreact.state⟩ .nil, rfl, rfl, hreact.state⟩
    | none =>
      have he := hreact.result_eq.trans he'
      have hlt : lines.left later < left := by
        have hcontinues : (lines.read prompt source s.world).continues = true := by
          rw [hread]
          exact continues_of_react he
        have hlt := lines.left_lt hcontinues
        rwa [hread, hleft] at hlt
      obtain ⟨hrounds, hending, hsource, hstate⟩ := ih _ hlt later hreact.state rfl
      rw [run_of_no_ending hread he, run_of_no_ending hread' he']
      exact ⟨.cons ⟨hevents, rfl, hreact.events_eq, hreact.state⟩ hrounds, hending, hsource, hstate⟩

/-- How programs end is seen in the log alone: sessions that differ in the statuses of their
programs, and in what is shown of the log, do the same in every round and end the same, and their
prompts, their texts, their launches and their changes of directory are the same. -/
theorem lookAlike_of_statuses (hh : host.Alike R host') (hl : lines.Alike R lines')
    (settings : Settings) (source : Source) {s : State Dir World} {s' : State Dir World'}
    (hs : s.Alike R s') (threshold threshold' : Log.Threshold)
    (showLevel showLevel' : Log.Level → String) :
    let run := run (.ofSettings host lines settings) source s
    let run' := Session.run (.ofSettings host' lines' settings) source s'
    run.Alike R run' ∧
      (run.events.shown threshold).unlogged = (run'.events.shown threshold').unlogged ∧
      (run.events.shown threshold).LookAlike (run'.events.shown threshold') ∧
      bytesOn .output (run.events.standard threshold showLevel) =
        bytesOn .output (run'.events.standard threshold' showLevel') := by
  intro run run'
  have halike : run.Alike R run' := run_alike hh hl _ _ source hs
  have hseen : (run.events.shown threshold).unlogged = (run'.events.shown threshold').unlogged := by
    rw [Trace.unlogged_shown, Trace.unlogged_shown, halike.events_eq]
  refine ⟨halike, hseen, Trace.lookAlike_of_unlogged hseen, ?_⟩
  rw [← Trace.bytesOn_output_unlogged threshold threshold showLevel showLevel, halike.events_eq,
    Trace.bytesOn_output_unlogged threshold' threshold showLevel' showLevel]

/-- A program that exits and one that is killed, where another session saw both succeed; the one is
shown every record and the other none. -/
theorem lookAlike_of_statuses_killed :
    let host : Host String Unit :=
      { chdir := fun _ dir path => (.ok (dir ++ "/" ++ path), ())
        launch := fun _ _ _ => (.ok ⟨7, [(.output, [104, 105])], .ok (.exited 0)⟩, ()) }
    let host' : Host String (List WaitStatus) :=
      { chdir := fun statuses dir path => (.ok (dir ++ "/" ++ path), statuses)
        launch := fun statuses _ _ =>
          (.ok ⟨7, [(.output, [104, 105])], .ok (statuses.headD (.exited 0))⟩, statuses.tail) }
    let script : Script := ⟨.healthy, [.ok (.line "false"), .ok (.line "cd a"), .ok (.line "crash"),
      .ok (.line "exit")]⟩
    let s : State String Unit := ⟨"", (), .healthy, .healthy⟩
    let s' : State String (List WaitStatus) := ⟨"", [.exited 1, .killed 11], .healthy, .healthy⟩
    let run := run (.ofSettings host (Script.lines Unit) {}) script s
    let run' := Session.run (.ofSettings host' (Script.lines (List WaitStatus)) {}) script s'
    (run.events.shown .off).LookAlike (run'.events.shown (.upTo .trace)) ∧
      run.ending = run'.ending ∧ run.state.dir = run'.state.dir := by
  intro host host' script s s' run run'
  have hh : host.Alike (fun _ _ => True) host' :=
    ⟨fun _ _ _ => ⟨rfl, trivial⟩, fun _ _ _ => ⟨rfl, trivial⟩⟩
  have hl : (Script.lines Unit).Alike (fun _ _ => True) (Script.lines (List WaitStatus)) :=
    Script.lines_alike _
  have hs : s.Alike (fun _ _ => True) s' := ⟨rfl, trivial, rfl, rfl⟩
  obtain ⟨⟨-, hending, -, hstate⟩, -, hlook, -⟩ :=
    lookAlike_of_statuses hh hl {} script hs .off (.upTo .trace) Log.Level.name Log.Level.name
  exact ⟨hlook, hending, hstate.dir_eq⟩

end

end Session

end LineShell
