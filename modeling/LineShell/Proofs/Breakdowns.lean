import LineShell.Proofs.Stages

/-!
# Broken streams

A command that fails ends no session, and neither does a farewell that cannot be written. A broken
stream ends one in two places: output that cannot be flushed before a program, and a failure that
cannot be reported. A session ends in an error at the first line that comes to such a place, or at
the first reading that fails.
-/

namespace LineShell

variable {Dir World Source : Type}

namespace Session

/-- The command is a program, and what is held back for output cannot be flushed before it. -/
def Unflushed (args : ArgumentVector) (s : State Dir World) (cause : IoError) : Prop :=
  isProgram args = true ∧ s.out.flush.fault = some cause

/-- The command fails, and its failure cannot be reported. A program is tried only behind a flush.
-/
def Unreported (host : Host Dir World) (args : ArgumentVector) (s : State Dir World)
    (cause : IoError) : Prop :=
  (isProgram args = true → s.out.flush.fault = none) ∧
    ∃ e, (comesTo host args s.place).1 = some e ∧ (s.err.deliver e.report).fault = some cause

/-- The command of a line breaks the session. -/
def Breaks (host : Host Dir World) (t : Tokenizer) (line : String) (s : State Dir World)
    (cause : IoError) : Prop :=
  ∃ args, t.tokenize line = some args ∧ (Unflushed args s cause ∨ Unreported host args s cause)

/-! ## After an attempt -/

section

variable {step : Step Dir World (Except ShellError Flow)} {account : Account}
  {outcome : Option ShellError × Place Dir World} {flow : Flow} {out err : Sink}

/-- What is settled is an error only where a failure cannot be reported. -/
theorem Attempts.settle_error_iff (h : Attempts step account outcome flow out err)
    (cause : IoError) :
    (settle step).result = .error cause ↔
      ∃ e, outcome.1 = some e ∧ (err.deliver e.report).fault = some cause := by
  obtain ⟨-, -, -, herr, hfailure, -⟩ := h
  rw [← hfailure, ← herr]
  unfold settle
  cases hr : step.result with
  | ok next => simp [failureOf]
  | error e =>
    simp only [failureOf, Option.some.injEq, exists_eq_left', report]
    cases (step.state.err.deliver e.report).fault <;> simp

theorem Attempts.settle_ok (h : Attempts step account outcome flow out err) {next : Flow}
    (hn : (settle step).result = .ok next) : next = flow := by
  rw [← h.flow_eq]
  unfold settle at hn
  cases hr : step.result with
  | ok next' =>
    rw [hr] at hn
    exact (Except.ok.inj hn).symm
  | error e =>
    simp only [hr, report] at hn
    split at hn
    · cases hn
    · exact (Except.ok.inj hn).symm

/-- Reporting leads nowhere else. -/
theorem Attempts.settle_place (h : Attempts step account outcome flow out err) :
    (settle step).state.place = outcome.2 := by
  rw [← h.place_eq]
  unfold settle
  cases step.result <;> rfl

end

/-- Reporting dispatches nothing. -/
theorem settle_dispatches (step : Step Dir World (Except ShellError Flow)) :
    (settle step).events.dispatches = step.events.dispatches := by
  unfold settle
  cases step.result with
  | ok flow => rfl
  | error e => exact (Trace.dispatches_append _ _).trans (List.append_nil _)

/-! ## Commands -/

/-- Output can be flushed before a program, or it cannot. -/
theorem flushed_or_unflushed (args : ArgumentVector) (s : State Dir World) :
    (isProgram args = true → s.out.flush.fault = none) ∨ ∃ cause, Unflushed args s cause := by
  cases hp : isProgram args with
  | false => exact .inl nofun
  | true =>
    cases hf : s.out.flush.fault with
    | none => exact .inl fun _ => rfl
    | some cause => exact .inr ⟨cause, hp, hf⟩

/-- In the one case nothing is tried. -/
theorem perform_of_unflushed (host : Host Dir World) {args : ArgumentVector} {s : State Dir World}
    {cause : IoError} (h : Unflushed args s cause) :
    perform host args s = ⟨[], { s with out := s.out.flush.sink }, .error cause⟩ := by
  obtain ⟨hprogram, hfault⟩ := h
  have hn : Builtin.ofName? args.command = none := Option.isNone_iff_eq_none.1 hprogram
  simp only [perform, hn, external, hfault]

/-- In the other the command is tried and settled. -/
theorem perform_eq_settle (host : Host Dir World) {args : ArgumentVector} {s : State Dir World}
    (h : isProgram args = true → s.out.flush.fault = none) :
    ∃ step account out, perform host args s = settle step ∧
      Attempts step account (comesTo host args s.place) (if isExit args then .exit else .proceed)
        out s.err := by
  cases hb : Builtin.ofName? args.command with
  | none =>
    have he : isExit args = false := isExit_eq_false hb (by simp)
    have hflush : s.out.flush.fault = none := h (by simp [isProgram, hb])
    have ha := launch_attempts host { s with out := s.out.flush.sink } hb
    refine ⟨_, _, _, ?_, by rw [he]; exact ha⟩
    simp only [perform, hb, external, hflush]
  | some b =>
    have hrun : perform host args s = settle ⟨(b.run host args s).events,
        (b.run host args s).state, (b.run host args s).result.mapError .command⟩ := by
      simp only [perform, hb]
    cases b with
    | cd =>
      have he : isExit args = false := isExit_eq_false hb (by simp)
      obtain ⟨-, hp, ho, hr, hf, hw⟩ := changeDirectory_attempts host s hb
      exact ⟨_, _, _, hrun, rfl, hp, ho, hr, hf, by rw [he]; exact hw⟩
    | exit =>
      obtain ⟨-, hp, ho, hr, hf, hw⟩ := leave_attempts host s hb
      exact ⟨_, _, _, hrun, rfl, hp, ho, hr, hf, by rw [isExit_eq_true_iff.2 hb]; exact hw⟩

theorem perform_error_iff (host : Host Dir World) (args : ArgumentVector) (s : State Dir World)
    (cause : IoError) :
    (perform host args s).result = .error cause ↔
      Unflushed args s cause ∨ Unreported host args s cause := by
  rcases flushed_or_unflushed args s with hflush | ⟨fault, hprogram, hfault⟩
  · obtain ⟨step, account, out, hperform, ha⟩ := perform_eq_settle host hflush
    rw [hperform, ha.settle_error_iff]
    constructor
    · exact fun h => .inr ⟨hflush, h⟩
    · rintro (⟨hprogram, hfault⟩ | ⟨-, h⟩)
      · cases (hflush hprogram).symm.trans hfault
      · exact h
  · rw [perform_of_unflushed host ⟨hprogram, hfault⟩]
    constructor
    · rintro ⟨⟩
      exact .inl ⟨hprogram, hfault⟩
    · rintro (⟨-, h⟩ | ⟨h, -⟩)
      · cases hfault.symm.trans h
        rfl
      · cases (h hprogram).symm.trans hfault

theorem perform_ok (host : Host Dir World) {args : ArgumentVector} {s : State Dir World}
    {flow : Flow} (h : (perform host args s).result = .ok flow) :
    flow = if isExit args then .exit else .proceed := by
  rcases flushed_or_unflushed args s with hflush | ⟨fault, hfault⟩
  · obtain ⟨step, account, out, hperform, ha⟩ := perform_eq_settle host hflush
    exact ha.settle_ok (hperform ▸ h)
  · rw [perform_of_unflushed host hfault] at h
    cases h

/-- An `exit` never breaks the session, whether or not its farewell could be written. -/
theorem perform_of_exit (host : Host Dir World) {args : ArgumentVector} (s : State Dir World)
    (h : isExit args = true) : (perform host args s).result = .ok .exit := by
  have hb := isExit_eq_true_iff.1 h
  have hprogram : isProgram args = false := by simp [isProgram, hb]
  cases hr : (perform host args s).result with
  | ok flow => rw [perform_ok host hr, if_pos h]
  | error cause =>
    rcases (perform_error_iff host args s cause).1 hr with ⟨hp, -⟩ | ⟨-, e, he, -⟩
    · cases hprogram.symm.trans hp
    · simp [comesTo, hb] at he

/-- A command whose failure cannot be reported leads where it would lead otherwise. -/
theorem perform_place_of_unreported (host : Host Dir World) {args : ArgumentVector}
    {s : State Dir World} {cause : IoError} (h : Unreported host args s cause) :
    (perform host args s).state.place = (comesTo host args s.place).2 := by
  obtain ⟨step, account, out, hperform, ha⟩ := perform_eq_settle host h.1
  rw [hperform, ha.settle_place]

/-- A command dispatches no other, whatever the sinks do. -/
theorem perform_dispatches (host : Host Dir World) (args : ArgumentVector) (s : State Dir World) :
    (perform host args s).events.dispatches = [] := by
  cases hb : Builtin.ofName? args.command with
  | none =>
    cases hf : s.out.flush.fault with
    | some cause =>
      simp only [perform, hb, external, hf]
      rfl
    | none =>
      have ha := launch_attempts host { s with out := s.out.flush.sink } hb
      simp only [perform, hb, external, hf, settle_dispatches]
      exact congrArg Account.dispatches ha.account_eq
  | some b =>
    simp only [perform, hb, settle_dispatches]
    cases b with
    | cd => exact congrArg Account.dispatches (changeDirectory_attempts host s hb).account_eq
    | exit => exact congrArg Account.dispatches (leave_attempts host s hb).account_eq

/-! ## Lines -/

section

variable {host : Host Dir World} {t : Tokenizer} {line : String} {s : State Dir World}

theorem executeLine_of_none (h : t.tokenize line = none) :
    executeLine host t line s = ⟨[], s, .ok .proceed⟩ := by
  simp only [executeLine_eq, h]

theorem executeLine_of_some {args : ArgumentVector} (h : t.tokenize line = some args) :
    executeLine host t line s = { perform host args s with
      events := announce args ++ (perform host args s).events } := by
  simp only [executeLine_eq, h, dispatch]

/-- A line is an error of the session where its command breaks it, and nowhere else. -/
theorem executeLine_error_iff (cause : IoError) :
    (executeLine host t line s).result = .error cause ↔ Breaks host t line s cause := by
  cases h : t.tokenize line with
  | none => simp [executeLine_of_none h, Breaks, h]
  | some args => simp [executeLine_of_some h, Breaks, h, perform_error_iff]

theorem executeLine_ok {flow : Flow} (hf : (executeLine host t line s).result = .ok flow) :
    flow = if (t.tokenize line).any isExit then .exit else .proceed := by
  cases h : t.tokenize line with
  | none =>
    rw [executeLine_of_none h] at hf
    exact (Except.ok.inj hf).symm
  | some args =>
    rw [executeLine_of_some h] at hf
    exact perform_ok host hf

theorem executeLine_of_exit (h : (t.tokenize line).any isExit = true) :
    (executeLine host t line s).result = .ok .exit := by
  cases ht : t.tokenize line with
  | none => simp [ht] at h
  | some args =>
    rw [executeLine_of_some ht]
    exact perform_of_exit host s (by simpa [ht] using h)

/-- Where output cannot be flushed, a line is dispatched and no more: nothing is launched, nothing
reported, and only the sink for output was asked. -/
theorem executeLine_of_unflushed {args : ArgumentVector} (ht : t.tokenize line = some args)
    {cause : IoError} (h : Unflushed args s cause) :
    (executeLine host t line s).events.account = { dispatches := [args] } ∧
      (executeLine host t line s).state = { s with out := s.out.flush.sink } := by
  rw [executeLine_of_some ht, perform_of_unflushed host h]
  refine ⟨?_, rfl⟩
  rw [List.append_nil, account_announce]

/-- Where a failure cannot be reported, the command has failed all the same. -/
theorem executeLine_of_unreported {args : ArgumentVector} (ht : t.tokenize line = some args)
    {cause : IoError} (h : Unreported host args s cause) :
    (executeLine host t line s).state.place = (comesTo host args s.place).2 ∧
      (executeLine host t line s).state.dir = s.dir := by
  have hplace : (executeLine host t line s).state.place = (comesTo host args s.place).2 := by
    rw [executeLine_of_some ht]
    exact perform_place_of_unreported host h
  obtain ⟨-, e, he, -⟩ := h
  exact ⟨hplace, (congrArg Place.dir hplace).trans (fails_of_comesTo he).2⟩

end

/-- A line dispatches its command and no other, whatever the sinks do. -/
theorem executeLine_dispatches (host : Host Dir World) (t : Tokenizer) (line : String)
    (s : State Dir World) :
    (executeLine host t line s).events.dispatches = (t.tokenize line).toList := by
  cases h : t.tokenize line with
  | none =>
    rw [executeLine_of_none h]
    rfl
  | some args =>
    rw [executeLine_of_some h, Trace.dispatches_append, perform_dispatches, List.append_nil]
    exact congrArg Account.dispatches (account_announce args)

/-! ## Stages -/

section

variable (frame : Frame Source Dir World) (p : Stage Source Dir World)

/-- What is read at a stage is an error, or a line that breaks the session. -/
def BreaksAt (e : ShellError) : Prop :=
  (p.reading frame).outcome = .error e ∨
    ∃ line cause, (p.reading frame).outcome = .ok (.line line) ∧
      Breaks frame.host frame.tokenizer line (p.ready frame) cause ∧ e = .io cause

/-- What is read at a stage is an abandoned line, or a line behind which the session goes on. -/
def ProceedsAt : Prop :=
  (p.reading frame).outcome = .ok .interrupted ∨
    ∃ line, (p.reading frame).outcome = .ok (.line line) ∧
      (executeLine frame.host frame.tokenizer line (p.ready frame)).result = .ok .proceed

variable {frame p}

theorem endingAfter_eq_error_iff {result : Except IoError Flow} {e : ShellError} :
    endingAfter result = some (.error e) ↔ ∃ cause, result = .error cause ∧ e = .io cause := by
  rcases result with cause | flow
  · simp [endingAfter, eq_comm]
  · cases flow <;> simp [endingAfter]

theorem endingAfter_eq_none_iff {result : Except IoError Flow} :
    endingAfter result = none ↔ result = .ok .proceed := by
  rcases result with cause | flow
  · simp [endingAfter]
  · cases flow <;> simp [endingAfter]

theorem reaction_eq_error_iff {e : ShellError} :
    (p.reaction frame).result = some (.error e) ↔ BreaksAt frame p e := by
  unfold Stage.reaction BreaksAt
  rcases (p.reading frame).outcome with e' | outcome
  · simp [react]
  · cases outcome with
    | line text => simp [react, endingAfter_eq_error_iff, executeLine_error_iff]
    | interrupted => simp [react]
    | endOfInput => simp [react]

theorem reaction_eq_none_iff : (p.reaction frame).result = none ↔ ProceedsAt frame p := by
  unfold Stage.reaction ProceedsAt
  rcases (p.reading frame).outcome with e | outcome
  · simp [react]
  · cases outcome with
    | line text => simp [react, endingAfter_eq_none_iff]
    | interrupted => simp [react]
    | endOfInput => simp [react]

end

/-- A line breaks a session where output cannot be flushed before its program or its failure cannot
be reported, whatever the sinks do otherwise. So a session ends in an error at the first stage that
reads one or such a line, behind stages whose lines were run to their ends, and reads nothing behind
it. -/
theorem ends_in_error_iff (frame : Frame Source Dir World) :
    (∀ (line : String) (s : State Dir World),
      let step := executeLine frame.host frame.tokenizer line s
      let args? := frame.tokenizer.tokenize line
      (∀ cause, step.result = .error cause ↔
        ∃ args, args? = some args ∧ (Unflushed args s cause ∨ Unreported frame.host args s cause)) ∧
      (∀ flow, step.result = .ok flow → flow = if args?.any isExit then .exit else .proceed) ∧
      (args?.any isExit = true → step.result = .ok .exit) ∧
      (args? = none → step = ⟨[], s, .ok .proceed⟩) ∧
      ∀ args cause, args? = some args →
        (Unflushed args s cause → step.events.account = { dispatches := [args] } ∧
          step.state = { s with out := s.out.flush.sink }) ∧
        (Unreported frame.host args s cause →
          step.state.place = (comesTo frame.host args s.place).2 ∧ step.state.dir = s.dir)) ∧
    ∀ (source : Source) (s : State Dir World),
      let stage := fun i => Stage.after frame i ⟨source, s⟩
      ∃ n, (∀ i < n, ProceedsAt frame (stage i) ∧ ∀ e, ¬ BreaksAt frame (stage i) e) ∧
        (∀ e, (run frame source s).ending = .error e ↔ BreaksAt frame (stage n) e) ∧
        (run frame source s).rounds = (List.range (n + 1)).map (fun i => (stage i).round frame) ∧
        ⟨(run frame source s).source, (run frame source s).state⟩ = stage (n + 1) := by
  constructor
  · intro line s step args?
    exact ⟨fun cause => executeLine_error_iff cause, fun flow => executeLine_ok,
      executeLine_of_exit, executeLine_of_none, fun args cause ht =>
        ⟨executeLine_of_unflushed ht, executeLine_of_unreported ht⟩⟩
  · intro source s stage
    obtain ⟨n, hbefore, hlast, hrounds, hend⟩ := run_stages frame source s
    refine ⟨n, fun i hi => ⟨reaction_eq_none_iff.1 (hbefore i hi), fun e he => ?_⟩, fun e => ?_,
      hrounds, hend⟩
    · cases (hbefore i hi).symm.trans (reaction_eq_error_iff.2 he)
    · rw [← reaction_eq_error_iff, hlast, Option.some.injEq]

end Session

end LineShell
