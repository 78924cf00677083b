import LineShell.Builtin
import LineShell.Line.Source

/-!
# Sessions

A session reads a line, splits it, runs the command in it to its end, and reads on. A command that
fails is reported and the session goes on; only a broken stream or a failed read ends it early.
-/

namespace LineShell

inductive SessionEnd where
  | exit
  | endOfInput
  deriving DecidableEq, Repr

namespace Session

variable {Dir World Source : Type}

/-- Runs a program to its end. -/
def launch (host : Host Dir World) (args : ArgumentVector) (s : State Dir World) :
    Step Dir World (Except ProcessError WaitStatus) :=
  let (outcome, world) := host.launch s.world s.dir args
  let s := { s with world }
  match outcome with
  | .error cause => ⟨[.launched args (some cause)], s, .error (.ofLaunch args.command cause)⟩
  | .ok child =>
    let pid := toString child.pid
    let begun : Trace :=
      .launched args none :: .logged (Log.debug ("spawned " ++ args.command ++ " as pid " ++ pid)) ::
        child.written.map fun (stream, bytes) => .wrote stream bytes
    match child.waited with
    | .error cause => ⟨begun, s, .error (.wait cause)⟩
    | .ok status =>
      let finished : Trace :=
        [.logged (Log.debug ("pid " ++ pid ++ " finished: " ++ status.describe))]
      let remark : Trace :=
        if status.success then []
        else [.logged (Log.info (args.command ++ ": " ++ status.describe))]
      ⟨begun ++ finished ++ remark, s, .ok status⟩

/-- Reports an error. A report that cannot be written is an error of the session. -/
def report (e : ShellError) (s : State Dir World) : Step Dir World (Except IoError Flow) :=
  let said := s.err.deliver e.report
  ⟨[.reported said.taken], { s with err := said.sink },
    match said.fault with
    | some fault => .error fault
    | none => .ok .proceed⟩

/-- Goes on after a command: its failure is reported. -/
def settle (step : Step Dir World (Except ShellError Flow)) : Step Dir World (Except IoError Flow) :=
  match step.result with
  | .ok flow => ⟨step.events, step.state, .ok flow⟩
  | .error e =>
    let reported := report e step.state
    { reported with events := step.events ++ reported.events }

/-- Runs a command as a program. What the shell still holds back is written before. -/
def external (host : Host Dir World) (args : ArgumentVector) (s : State Dir World) :
    Step Dir World (Except IoError Flow) :=
  let flushed := s.out.flush
  let s := { s with out := flushed.sink }
  match flushed.fault with
  | some fault => ⟨[], s, .error fault⟩
  | none =>
    let step := launch host args s
    settle ⟨step.events, step.state, (step.result.mapError .process).map fun _ => .proceed⟩

/-- Runs a command inside the shell or as a program. -/
def perform (host : Host Dir World) (args : ArgumentVector) (s : State Dir World) :
    Step Dir World (Except IoError Flow) :=
  match Builtin.ofName? args.command with
  | some b =>
    let step := b.run host args s
    settle ⟨step.events, step.state, step.result.mapError .command⟩
  | none => external host args s

/-- What is noted of a command before it runs. -/
def announce (args : ArgumentVector) : Trace :=
  .dispatched args ::
    if args.truncated then
      [.logged (Log.debug ("argument list truncated to " ++ toString args.size ++ " tokens"))]
    else []

/-- Runs the command of a line. -/
def dispatch (host : Host Dir World) (args : ArgumentVector) (s : State Dir World) :
    Step Dir World (Except IoError Flow) :=
  let step := perform host args s
  { step with events := announce args ++ step.events }

/-- Goes on after a line was split. A blank line does nothing; if there was no room for the words,
that is reported. -/
def executeTokenized (host : Host Dir World)
    (tokenized : Except ShellError (Option ArgumentVector)) (s : State Dir World) :
    Step Dir World (Except IoError Flow) :=
  match tokenized with
  | .error e => report e s
  | .ok none => ⟨[], s, .ok .proceed⟩
  | .ok (some args) => dispatch host args s

/-- Runs a line for whose words there is room. -/
def executeLine (host : Host Dir World) (tokenizer : Tokenizer) (line : String)
    (s : State Dir World) : Step Dir World (Except IoError Flow) :=
  executeTokenized host (.ok (tokenizer.tokenize line)) s

theorem executeLine_eq (host : Host Dir World) (tokenizer : Tokenizer) (line : String)
    (s : State Dir World) :
    executeLine host tokenizer line s =
      match tokenizer.tokenize line with
      | none => ⟨[], s, .ok .proceed⟩
      | some args => dispatch host args s := by
  unfold executeLine
  cases tokenizer.tokenize line <;> rfl

/-- One read, what followed it, and the state before the next one. -/
structure Round (Dir World : Type) where
  reading : Trace
  outcome : Except ShellError ReadOutcome
  running : Trace
  after : State Dir World

def Round.events (r : Round Dir World) : Trace := r.reading ++ r.running

/-- A whole session: its rounds in order, how it ended, and what it left. -/
structure Run (Source Dir World : Type) where
  rounds : List (Round Dir World)
  ending : Except ShellError SessionEnd
  source : Source
  state : State Dir World

def Run.events (r : Run Source Dir World) : Trace := r.rounds.flatMap Round.events

/-- What does not change while a session runs. -/
structure Frame (Source Dir World : Type) where
  host : Host Dir World
  source : LineSource Source World
  tokenizer : Tokenizer
  prompt : String

def Frame.ofSettings (host : Host Dir World) (source : LineSource Source World)
    (settings : Settings) : Frame Source Dir World :=
  { host, source, tokenizer := { maxArgs := settings.maxArgs, mode := settings.split }
    prompt := settings.prompt }

/-- The ending that a line brings, if it brings one. -/
def endingAfter : Except IoError Flow → Option (Except ShellError SessionEnd)
  | .error cause => some (.error (.io cause))
  | .ok .exit => some (.ok .exit)
  | .ok .proceed => none

/-- What a session does about a reading: a line is run, the end of the input and a failure end the
session. The result is the ending, if this is one. -/
def react (host : Host Dir World) (tokenizer : Tokenizer) (outcome : Except ShellError ReadOutcome)
    (s : State Dir World) : Step Dir World (Option (Except ShellError SessionEnd)) :=
  match outcome with
  | .error e => ⟨[], s, some (.error e)⟩
  | .ok .endOfInput => ⟨[.logged (Log.debug "end of input")], s, some (.ok .endOfInput)⟩
  | .ok .interrupted => ⟨[], s, none⟩
  | .ok (.line text) =>
    let step := executeLine host tokenizer text s
    ⟨step.events, step.state, endingAfter step.result⟩

/-- A session that goes on after a reading may read again. -/
theorem continues_of_react {host : Host Dir World} {tokenizer : Tokenizer}
    {reading : Reading Source World} {s : State Dir World}
    (h : (react host tokenizer reading.outcome s).result = none) : reading.continues = true := by
  unfold Reading.continues
  split
  · rfl
  · rfl
  · next he => simp [react, he] at h
  · next he => simp [react, he] at h

/-- Reads and runs lines until the session ends. -/
def run (frame : Frame Source Dir World) (source : Source) (s : State Dir World) :
    Run Source Dir World :=
  let reading := frame.source.read frame.prompt source s.world
  let step := react frame.host frame.tokenizer reading.outcome { s with world := reading.world }
  let round : Round Dir World := ⟨reading.events, reading.outcome, step.events, step.state⟩
  match _ending : step.result with
  | some ending => ⟨[round], ending, reading.source, step.state⟩
  | none =>
    let later := run frame reading.source step.state
    { later with rounds := round :: later.rounds }
termination_by frame.source.left source
decreasing_by exact frame.source.left_lt (continues_of_react _ending)

end Session

end LineShell
