import LineShell.Proofs.Tokens
import LineShell.Session

/-!
# What a line does

With sinks that take everything, a line does what its command says: a builtin runs inside the shell,
any other command is launched once, a failure is reported in one line, and only `exit` ends the
session.
-/

namespace LineShell

/-! ## Accounts -/

/-- What a session did, as far as it concerns commands and the texts of the shell. -/
structure Account where
  dispatches : List ArgumentVector := []
  launches : List ArgumentVector := []
  output : String := ""
  reports : String := ""
  deriving DecidableEq, Repr

namespace Account

/-- One account after another. -/
def append (a b : Account) : Account :=
  ⟨a.dispatches ++ b.dispatches, a.launches ++ b.launches, a.output ++ b.output,
    a.reports ++ b.reports⟩

instance : Append Account := ⟨append⟩

theorem append_def (a b : Account) : a ++ b =
    ⟨a.dispatches ++ b.dispatches, a.launches ++ b.launches, a.output ++ b.output,
      a.reports ++ b.reports⟩ := rfl

@[simp] theorem append_nil (a : Account) : a ++ ({} : Account) = a := by
  simp [append_def]

@[simp] theorem nil_append (a : Account) : ({} : Account) ++ a = a := by
  simp [append_def]

end Account

namespace Trace

/-- The account of what happened. -/
def account (trace : Trace) : Account :=
  ⟨trace.dispatches, trace.launches, trace.output, trace.reports⟩

@[simp] theorem account_nil : account [] = {} := rfl

@[simp] theorem account_append (a b : Trace) : account (a ++ b) = account a ++ account b := by
  simp [account, Account.append_def, dispatches, launches, output, reports, String.join_append]

theorem dispatches_append (a b : Trace) : dispatches (a ++ b) = a.dispatches ++ b.dispatches :=
  congrArg Account.dispatches (account_append a b)

theorem reports_append (a b : Trace) : reports (a ++ b) = a.reports ++ b.reports :=
  congrArg Account.reports (account_append a b)

theorem account_cons (e : Event) (trace : Trace) :
    account (e :: trace) = account [e] ++ account trace := account_append [e] trace

@[simp] theorem account_dispatched (args : ArgumentVector) (trace : Trace) :
    account (.dispatched args :: trace) = { dispatches := [args] } ++ account trace :=
  account_cons _ trace

@[simp] theorem account_launched (args : ArgumentVector) (fault : Option IoError) (trace : Trace) :
    account (.launched args fault :: trace) = { launches := [args] } ++ account trace :=
  account_cons _ trace

@[simp] theorem account_printed (text : String) (trace : Trace) :
    account (.printed text :: trace) = { output := text } ++ account trace :=
  account_cons _ trace

@[simp] theorem account_reported (text : String) (trace : Trace) :
    account (.reported text :: trace) = { reports := text } ++ account trace :=
  account_cons _ trace

@[simp] theorem account_logged (record : Log.Record) (trace : Trace) :
    account (.logged record :: trace) = account trace :=
  (account_cons _ trace).trans (Account.nil_append _)

@[simp] theorem account_changedDirectory (path : String) (result : Except IoError Unit)
    (trace : Trace) : account (.changedDirectory path result :: trace) = account trace :=
  (account_cons _ trace).trans (Account.nil_append _)

@[simp] theorem account_prompted (text : String) (trace : Trace) :
    account (.prompted text :: trace) = account trace :=
  (account_cons _ trace).trans (Account.nil_append _)

@[simp] theorem account_wrote (stream : Stream) (bytes : List UInt8) (trace : Trace) :
    account (.wrote stream bytes :: trace) = account trace :=
  (account_cons _ trace).trans (Account.nil_append _)

/-- What programs write is in no account of the shell. -/
@[simp] theorem account_written (written : List (Stream × List UInt8)) :
    account (written.map fun (stream, bytes) => .wrote stream bytes) = {} := by
  induction written with
  | nil => rfl
  | cons w written ih => rw [List.map_cons, account_wrote, ih]

end Trace

/-! ## Places -/

/-- Where a session stands. -/
structure Place (Dir World : Type) where
  dir : Dir
  world : World

namespace State

variable {Dir World : Type}

/-- The place of a state. -/
def place (s : State Dir World) : Place Dir World := ⟨s.dir, s.world⟩

/-- Neither sink of the session ever fails. -/
structure IsHealthy (s : State Dir World) : Prop where
  out : s.out.IsHealthy
  err : s.err.IsHealthy

end State

/-- A step as it is seen from outside: its account, where it leads, and what comes of it. The sinks
stay healthy. -/
structure Step.Does {Dir World Result : Type} (step : Step Dir World Result) (account : Account)
    (place : Place Dir World) (result : Result) : Prop where
  account_eq : step.events.account = account
  place_eq : step.state.place = place
  healthy : step.state.IsHealthy
  result_eq : step.result = result

namespace Session

variable {Dir World : Type}

/-! ## Commands by themselves -/

/-- What a command comes to: why it fails, if it does, and the place after it. -/
def comesTo (host : Host Dir World) (args : ArgumentVector) (p : Place Dir World) :
    Option ShellError × Place Dir World :=
  match Builtin.ofName? args.command with
  | some .exit => (none, p)
  | some .cd =>
    match args.get? 1 with
    | none => (some (.command (.missingArgument Builtin.cd.name)), p)
    | some path =>
      match host.chdir p.world p.dir path with
      | (.error cause, world) =>
        (some (.command (.changeDirectory path cause)), { p with world })
      | (.ok dir, world) => (none, { dir, world })
  | none =>
    match host.launch p.world p.dir args with
    | (.error cause, world) =>
      (some (.process (.ofLaunch args.command cause)), { p with world })
    | (.ok child, world) =>
      match child.waited with
      | .error cause => (some (.process (.wait cause)), { p with world })
      | .ok _ => (none, { p with world })

/-- What is said of a failure. -/
def complaint : Option ShellError → String
  | none => ""
  | some e => e.report

/-- A command is a program unless its name is that of a builtin. -/
def isProgram (args : ArgumentVector) : Bool := (Builtin.ofName? args.command).isNone

/-- The one command that ends a session. -/
def isExit (args : ArgumentVector) : Bool := args.command = "exit"

/-- The account of a command at a place. -/
def accountOf (host : Host Dir World) (args : ArgumentVector) (p : Place Dir World) : Account where
  dispatches := [args]
  launches := if isProgram args then [args] else []
  output := if isExit args then Builtin.farewell else ""
  reports := complaint (comesTo host args p).1

theorem isExit_eq_true_iff {args : ArgumentVector} :
    isExit args = true ↔ Builtin.ofName? args.command = some .exit := by
  constructor
  · intro h
    rw [of_decide_eq_true h]
    rfl
  · intro h
    exact decide_eq_true (Builtin.name_of_ofName? h).symm

theorem isExit_eq_false {args : ArgumentVector} {b? : Option Builtin}
    (h : Builtin.ofName? args.command = b?) (hne : b? ≠ some .exit) : isExit args = false := by
  rwa [← Bool.not_eq_true, isExit_eq_true_iff, h]

/-! ## Failures -/

/-- The ways in which a command fails at a place, each with its error. -/
inductive Fails (host : Host Dir World) (args : ArgumentVector) (p : Place Dir World) :
    ShellError → Prop where
  | missing (hcommand : args.command = "cd") (hnone : args.get? 1 = none) :
    Fails host args p (.command (.missingArgument "cd"))
  | refused (path : String) (cause : IoError) (hcommand : args.command = "cd")
    (hpath : args.get? 1 = some path) (hchdir : (host.chdir p.world p.dir path).1 = .error cause) :
    Fails host args p (.command (.changeDirectory path cause))
  | unlaunched (cause : IoError) (hprogram : isProgram args = true)
    (hlaunch : (host.launch p.world p.dir args).1 = .error cause) :
    Fails host args p (.process (.ofLaunch args.command cause))
  | lost (child : Child) (cause : IoError) (hprogram : isProgram args = true)
    (hlaunch : (host.launch p.world p.dir args).1 = .ok child)
    (hwait : child.waited = .error cause) : Fails host args p (.process (.wait cause))

section

variable {host : Host Dir World} {args : ArgumentVector} {p : Place Dir World} {e : ShellError}

/-- A command comes to a failure in one of these ways, and then leaves the directory as it was. -/
theorem fails_of_comesTo (h : (comesTo host args p).1 = some e) :
    Fails host args p e ∧ (comesTo host args p).2.dir = p.dir := by
  cases hb : Builtin.ofName? args.command with
  | none =>
    have hprogram : isProgram args = true := by simp [isProgram, hb]
    rcases hl : host.launch p.world p.dir args with ⟨cause | child, world⟩
    · simp only [comesTo, hb, hl, Option.some.injEq] at h ⊢
      exact ⟨h ▸ .unlaunched cause hprogram (congrArg Prod.fst hl), trivial⟩
    · cases hw : child.waited with
      | error cause =>
        simp only [comesTo, hb, hl, hw, Option.some.injEq] at h ⊢
        exact ⟨h ▸ .lost child cause hprogram (congrArg Prod.fst hl) hw, trivial⟩
      | ok status => simp [comesTo, hb, hl, hw] at h
  | some b =>
    cases b with
    | exit => simp [comesTo, hb] at h
    | cd =>
      have hcommand : args.command = "cd" := (Builtin.name_of_ofName? hb).symm
      cases hp : args.get? 1 with
      | none =>
        simp only [comesTo, hb, hp, Option.some.injEq] at h ⊢
        exact ⟨h ▸ .missing hcommand hp, trivial⟩
      | some path =>
        rcases hc : host.chdir p.world p.dir path with ⟨cause | dir, world⟩
        · simp only [comesTo, hb, hp, hc, Option.some.injEq] at h ⊢
          exact ⟨h ▸ .refused path cause hcommand hp (congrArg Prod.fst hc), trivial⟩
        · simp [comesTo, hb, hp, hc] at h

theorem comesTo_eq_some_iff : (comesTo host args p).1 = some e ↔ Fails host args p e := by
  refine ⟨fun h => (fails_of_comesTo h).1, fun h => ?_⟩
  have hcd : args.command = "cd" → Builtin.ofName? args.command = some .cd := fun h => h ▸ rfl
  have hprogram : isProgram args = true → Builtin.ofName? args.command = none :=
    Option.isNone_iff_eq_none.1
  cases h with
  | missing hcommand hnone =>
    simp only [comesTo, hcd hcommand, hnone]
    rfl
  | refused path cause hcommand hpath hchdir =>
    rcases hc : host.chdir p.world p.dir path with ⟨result, world⟩
    rw [hc] at hchdir
    subst hchdir
    simp only [comesTo, hcd hcommand, hpath, hc]
  | unlaunched cause hp hlaunch =>
    rcases hl : host.launch p.world p.dir args with ⟨result, world⟩
    rw [hl] at hlaunch
    subst hlaunch
    simp only [comesTo, hprogram hp, hl]
  | lost child cause hp hlaunch hwait =>
    rcases hl : host.launch p.world p.dir args with ⟨result, world⟩
    rw [hl] at hlaunch
    subst hlaunch
    simp only [comesTo, hprogram hp, hl, hwait]

end

/-! ## Parts of a command -/

/-- The failure of a command that was tried. -/
def failureOf : Except ShellError Flow → Option ShellError
  | .ok _ => none
  | .error e => some e

/-- What a session does after a command that was tried. -/
def flowOf : Except ShellError Flow → Flow
  | .ok flow => flow
  | .error _ => .proceed

/-- A step that tries a command: its account, what the command comes to, and how the session goes
on. The sinks stay healthy. -/
structure Tries (step : Step Dir World (Except ShellError Flow)) (account : Account)
    (outcome : Option ShellError × Place Dir World) (flow : Flow) : Prop where
  account_eq : step.events.account = account
  place_eq : step.state.place = outcome.2
  healthy : step.state.IsHealthy
  failure_eq : failureOf step.result = outcome.1
  flow_eq : flowOf step.result = flow

/-- A report is one line, and does not end the session. -/
theorem report_does (e : ShellError) {s : State Dir World} (h : s.IsHealthy) :
    (report e s).Does { reports := e.report } s.place (.ok .proceed) := by
  obtain ⟨htaken, hfault, hsink⟩ := h.err.deliver e.report
  exact ⟨by simp [report, htaken], rfl, ⟨h.out, hsink⟩, by simp [report, hfault]⟩

/-- A failure is reported once, and does not end the session. -/
theorem Tries.settle {step : Step Dir World (Except ShellError Flow)} {account : Account}
    {outcome : Option ShellError × Place Dir World} {flow : Flow}
    (h : Tries step account outcome flow) :
    (settle step).Does (account ++ { reports := complaint outcome.1 }) outcome.2 (.ok flow) := by
  obtain ⟨ha, hp, hs, hf, hw⟩ := h
  unfold Session.settle
  cases hr : step.result with
  | ok next =>
    rw [hr] at hf hw
    rw [← hf, ← hw, ← ha]
    exact ⟨(Account.append_nil _).symm, hp, hs, rfl⟩
  | error e =>
    rw [hr] at hf hw
    obtain ⟨haccount, hplace, hhealthy, hresult⟩ := report_does e hs
    rw [← hf, ← hw, ← ha, ← hp]
    exact ⟨by simp [haccount, failureOf, complaint], hplace, hhealthy, hresult⟩

/-- A step that tries a command, whatever its sinks do: its account, what the command comes to, how
the session goes on, and what is left of the sinks. -/
structure Attempts (step : Step Dir World (Except ShellError Flow)) (account : Account)
    (outcome : Option ShellError × Place Dir World) (flow : Flow) (out err : Sink) : Prop where
  account_eq : step.events.account = account
  place_eq : step.state.place = outcome.2
  out_eq : step.state.out = out
  err_eq : step.state.err = err
  failure_eq : failureOf step.result = outcome.1
  flow_eq : flowOf step.result = flow

theorem Attempts.tries {step : Step Dir World (Except ShellError Flow)} {account : Account}
    {outcome : Option ShellError × Place Dir World} {flow : Flow} {out err : Sink}
    (h : Attempts step account outcome flow out err) (ho : out.IsHealthy) (he : err.IsHealthy) :
    Tries step account outcome flow :=
  ⟨h.account_eq, h.place_eq, ⟨h.out_eq ▸ ho, h.err_eq ▸ he⟩, h.failure_eq, h.flow_eq⟩

theorem launch_attempts (host : Host Dir World) {args : ArgumentVector} (s : State Dir World)
    (hn : Builtin.ofName? args.command = none) :
    Attempts ⟨(launch host args s).events, (launch host args s).state,
        ((launch host args s).result.mapError .process).map fun _ => .proceed⟩
      { launches := [args] } (comesTo host args s.place) .proceed s.out s.err := by
  rcases hl : host.launch s.world s.dir args with ⟨cause | child, world⟩
  · simp only [launch, comesTo, State.place, hl, hn]
    exact ⟨by simp, rfl, rfl, rfl, rfl, rfl⟩
  · cases hw : child.waited with
    | error cause =>
      simp only [launch, comesTo, State.place, hl, hn, hw]
      exact ⟨by simp, rfl, rfl, rfl, rfl, rfl⟩
    | ok status =>
      simp only [launch, comesTo, State.place, hl, hn, hw]
      refine ⟨?_, rfl, rfl, rfl, rfl, rfl⟩
      cases status.success <;> simp

theorem changeDirectory_attempts (host : Host Dir World) {args : ArgumentVector}
    (s : State Dir World) (hn : Builtin.ofName? args.command = some .cd) :
    Attempts ⟨(Builtin.changeDirectory host args s).events,
        (Builtin.changeDirectory host args s).state,
        (Builtin.changeDirectory host args s).result.mapError .command⟩
      {} (comesTo host args s.place) .proceed s.out s.err := by
  cases hp : args.get? 1 with
  | none =>
    simp only [Builtin.changeDirectory, comesTo, hn, hp]
    exact ⟨rfl, rfl, rfl, rfl, rfl, rfl⟩
  | some path =>
    rcases hc : host.chdir s.world s.dir path with ⟨cause | dir, world⟩
    · simp only [Builtin.changeDirectory, comesTo, State.place, hn, hp, hc]
      exact ⟨by simp, rfl, rfl, rfl, rfl, rfl⟩
    · simp only [Builtin.changeDirectory, comesTo, State.place, hn, hp, hc]
      exact ⟨by simp, rfl, rfl, rfl, rfl, rfl⟩

theorem leave_attempts (host : Host Dir World) {args : ArgumentVector} (s : State Dir World)
    (hn : Builtin.ofName? args.command = some .exit) :
    Attempts ⟨(Builtin.leave s).events, (Builtin.leave s).state,
        (Builtin.leave s).result.mapError .command⟩
      { output := (s.out.deliver Builtin.farewell).taken } (comesTo host args s.place) .exit
      (s.out.deliver Builtin.farewell).sink s.err := by
  simp only [comesTo, hn]
  refine ⟨?_, rfl, rfl, rfl, rfl, rfl⟩
  cases hf : (s.out.deliver Builtin.farewell).fault <;> simp [Builtin.leave, hf]

theorem launch_tries (host : Host Dir World) {args : ArgumentVector} {s : State Dir World}
    (hn : Builtin.ofName? args.command = none) (h : s.IsHealthy) :
    Tries ⟨(launch host args s).events, (launch host args s).state,
        ((launch host args s).result.mapError .process).map fun _ => .proceed⟩
      { launches := [args] } (comesTo host args s.place) .proceed :=
  (launch_attempts host s hn).tries h.out h.err

theorem changeDirectory_tries (host : Host Dir World) {args : ArgumentVector} {s : State Dir World}
    (hn : Builtin.ofName? args.command = some .cd) (h : s.IsHealthy) :
    Tries ⟨(Builtin.changeDirectory host args s).events,
        (Builtin.changeDirectory host args s).state,
        (Builtin.changeDirectory host args s).result.mapError .command⟩
      {} (comesTo host args s.place) .proceed :=
  (changeDirectory_attempts host s hn).tries h.out h.err

theorem leave_tries (host : Host Dir World) {args : ArgumentVector} {s : State Dir World}
    (hn : Builtin.ofName? args.command = some .exit) (h : s.IsHealthy) :
    Tries ⟨(Builtin.leave s).events, (Builtin.leave s).state,
        (Builtin.leave s).result.mapError .command⟩
      { output := Builtin.farewell } (comesTo host args s.place) .exit := by
  obtain ⟨htaken, -, hsink⟩ := h.out.deliver Builtin.farewell
  have ha := (leave_attempts host s hn).tries hsink h.err
  rwa [htaken] at ha

/-! ## Commands -/

theorem external_does (host : Host Dir World) {args : ArgumentVector} {s : State Dir World}
    (hn : Builtin.ofName? args.command = none) (h : s.IsHealthy) :
    (external host args s).Does
      ({ launches := [args] } ++ { reports := complaint (comesTo host args s.place).1 })
      (comesTo host args s.place).2 (.ok .proceed) := by
  have ht := launch_tries host (s := { s with out := s.out.next }) hn ⟨h.out.next, h.err⟩
  simp only [external, Sink.flush, (h.out s.out.used).2]
  exact ht.settle

theorem builtin_does (host : Host Dir World) (b : Builtin) {args : ArgumentVector}
    {s : State Dir World} {account : Account} {flow : Flow}
    (h : Tries ⟨(b.act host args s).events, (b.act host args s).state,
      (b.act host args s).result.mapError .command⟩ account (comesTo host args s.place) flow) :
    (settle ⟨(b.run host args s).events, (b.run host args s).state,
        (b.run host args s).result.mapError .command⟩).Does
      (account ++ { reports := complaint (comesTo host args s.place).1 })
      (comesTo host args s.place).2 (.ok flow) := by
  obtain ⟨ha, hp, hs, hf, hw⟩ := h
  exact Tries.settle ⟨(Trace.account_logged _ _).trans ha, hp, hs, hf, hw⟩

theorem perform_does (host : Host Dir World) (args : ArgumentVector) {s : State Dir World}
    (h : s.IsHealthy) :
    (perform host args s).Does { accountOf host args s.place with dispatches := [] }
      (comesTo host args s.place).2 (.ok (if isExit args then .exit else .proceed)) := by
  unfold perform
  cases hb : Builtin.ofName? args.command with
  | none =>
    have he : isExit args = false := isExit_eq_false hb (by simp)
    simpa [accountOf, Account.append_def, isProgram, hb, he] using external_does host hb h
  | some b =>
    cases b with
    | cd =>
      have he : isExit args = false := isExit_eq_false hb (by simp)
      simpa [accountOf, Account.append_def, isProgram, hb, he] using
        builtin_does host .cd (changeDirectory_tries host hb h)
    | exit =>
      have he : isExit args = true := isExit_eq_true_iff.2 hb
      simpa [accountOf, Account.append_def, isProgram, hb, he] using
        builtin_does host .exit (leave_tries host hb h)

theorem account_announce (args : ArgumentVector) :
    (announce args).account = { dispatches := [args] } := by
  unfold announce
  cases args.truncated <;> simp

/-- A command is noted, tried, and reported if it fails. -/
theorem dispatch_does (host : Host Dir World) (args : ArgumentVector) {s : State Dir World}
    (h : s.IsHealthy) :
    (dispatch host args s).Does (accountOf host args s.place) (comesTo host args s.place).2
      (.ok (if isExit args then .exit else .proceed)) := by
  obtain ⟨ha, hp, hs, hr⟩ := perform_does host args h
  refine ⟨?_, hp, hs, hr⟩
  simp [dispatch, ha, account_announce, Account.append_def, accountOf]

/-! ## Lines -/

/-- What a line with some command, or with none, comes to: its account and the place after it. -/
def effectOf (host : Host Dir World) (args? : Option ArgumentVector) (p : Place Dir World) :
    Account × Place Dir World :=
  match args? with
  | none => ({}, p)
  | some args => (accountOf host args p, (comesTo host args p).2)

/-- A line does what its command comes to, and ends the session only as an `exit`. -/
theorem executeLine_does (host : Host Dir World) (t : Tokenizer) (line : String)
    {s : State Dir World} (h : s.IsHealthy) :
    (executeLine host t line s).Does (effectOf host (t.tokenize line) s.place).1
      (effectOf host (t.tokenize line) s.place).2
      (.ok (if (t.tokenize line).any isExit then .exit else .proceed)) := by
  rw [executeLine_eq]
  cases t.tokenize line with
  | none => exact ⟨rfl, rfl, h, rfl⟩
  | some args => exact dispatch_does host args h

end Session

end LineShell
