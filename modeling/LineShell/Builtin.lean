import LineShell.Host
import LineShell.Sink

/-!
# Builtins

Two commands run inside the shell: `cd` changes its directory, `exit` ends the session. Neither can be
a program, for a program has a directory of its own and cannot end its parent.
-/

namespace LineShell

/-- What a line does to a session. -/
inductive Flow where
  | proceed
  | exit
  deriving DecidableEq, Repr

/-- What a session changes: its directory, the world around it, and the sinks it writes to. -/
structure State (Dir World : Type) where
  dir : Dir
  world : World
  out : Sink
  err : Sink

/-- What happened, where it led, and what came of it. -/
structure Step (Dir World Result : Type) where
  events : Trace
  state : State Dir World
  result : Result

/-- The commands inside the shell. -/
inductive Builtin where
  | cd
  | exit
  deriving DecidableEq, Repr

namespace Builtin

def name : Builtin → String
  | .cd => "cd"
  | .exit => "exit"

def all : List Builtin := [.cd, .exit]

def ofName? : String → Option Builtin
  | "cd" => some .cd
  | "exit" => some .exit
  | _ => none

@[simp] theorem ofName?_name (b : Builtin) : ofName? b.name = some b := by
  cases b <;> rfl

theorem name_of_ofName? {text : String} {b : Builtin} (h : ofName? text = some b) :
    b.name = text := by
  unfold ofName? at h
  split at h <;> simp_all [name] <;> subst h <;> rfl

/-- What a session says at its end. -/
def farewell : String := "Goodbye!\n"

variable {Dir World : Type}

/-- Changes the directory to the first argument. The others are ignored. -/
def changeDirectory (host : Host Dir World) (args : ArgumentVector) (s : State Dir World) :
    Step Dir World (Except CommandError Flow) :=
  match args.get? 1 with
  | none => ⟨[], s, .error (.missingArgument Builtin.cd.name)⟩
  | some path =>
    let (outcome, world) := host.chdir s.world s.dir path
    let s := { s with world }
    match outcome with
    | .error cause =>
      ⟨[.changedDirectory path (.error cause)], s, .error (.changeDirectory path cause)⟩
    | .ok dir =>
      ⟨[.changedDirectory path (.ok ()),
        .logged (Log.debug ("working directory changed to " ++ path))],
        { s with dir }, .ok .proceed⟩

/-- Says farewell and ends the session, whether or not the farewell could be written. -/
def leave (s : State Dir World) : Step Dir World (Except CommandError Flow) :=
  let said := s.out.deliver farewell
  ⟨.printed said.taken ::
      said.fault.toList.map fun fault =>
        .logged (Log.warn ("could not write farewell: " ++ fault.message)),
    { s with out := said.sink }, .ok .exit⟩

def act (host : Host Dir World) (b : Builtin) (args : ArgumentVector) (s : State Dir World) :
    Step Dir World (Except CommandError Flow) :=
  match b with
  | .cd => changeDirectory host args s
  | .exit => leave s

/-- What a builtin does when it is dispatched, which is noted. -/
def run (host : Host Dir World) (b : Builtin) (args : ArgumentVector) (s : State Dir World) :
    Step Dir World (Except CommandError Flow) :=
  let step := b.act host args s
  { step with events := .logged (Log.debug ("builtin: " ++ b.name)) :: step.events }

/-- Dispatching a command that is no builtin as one is a mistake of the caller, and this says so. -/
def misuse (command : String) : String :=
  "internal error: entered unreachable code: \x60" ++ command ++ "\x60 dispatched as a builtin"

end Builtin

end LineShell
