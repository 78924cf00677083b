import LineShell.Text.Quoted

/-!
# Wait statuses

A finished child leaves a word of 32 bits. The low seven bits are a signal, 0 for a child that
exited, or 127 for one that was stopped; the byte above holds the exit code or the stopping signal.
-/

namespace LineShell

/-- The word that a wait for a child gives. -/
structure WaitStatus where
  raw : UInt32
  deriving DecidableEq, Repr

namespace WaitStatus

def low (s : WaitStatus) : Nat := s.raw.toNat % 128

/-- The byte above the lowest. -/
def high (s : WaitStatus) : Nat := s.raw.toNat / 256 % 256

def exitCode? (s : WaitStatus) : Option Nat := if s.low = 0 then some s.high else none

def signal? (s : WaitStatus) : Option Nat :=
  if 1 ≤ s.low ∧ s.low ≤ 126 then some s.low else none

def stopSignal? (s : WaitStatus) : Option Nat :=
  if s.raw.toNat % 256 = 127 then some s.high else none

/-- Whether a stopped child went on. -/
def continued (s : WaitStatus) : Bool := s.raw.toNat = 65535

/-- Whether the child exited with code 0. -/
def success (s : WaitStatus) : Bool := s.raw.toNat = 0

def exited (code : Nat) : WaitStatus := ⟨UInt32.ofNat (code % 256 * 256)⟩

def killed (signal : Nat) : WaitStatus := ⟨UInt32.ofNat (signal % 128)⟩

/-- The common signals: the number, the symbol and the text. -/
def signals : List (Nat × String × String) := [
  (1, "SIGHUP", "Hangup"),
  (2, "SIGINT", "Interrupt"),
  (3, "SIGQUIT", "Quit"),
  (4, "SIGILL", "Illegal instruction"),
  (5, "SIGTRAP", "Trace/breakpoint trap"),
  (6, "SIGABRT", "Aborted"),
  (7, "SIGBUS", "Bus error"),
  (8, "SIGFPE", "Floating point exception"),
  (9, "SIGKILL", "Killed"),
  (10, "SIGUSR1", "User defined signal 1"),
  (11, "SIGSEGV", "Segmentation fault"),
  (12, "SIGUSR2", "User defined signal 2"),
  (13, "SIGPIPE", "Broken pipe"),
  (14, "SIGALRM", "Alarm clock"),
  (15, "SIGTERM", "Terminated"),
  (16, "SIGSTKFLT", "Stack fault"),
  (17, "SIGCHLD", "Child exited"),
  (18, "SIGCONT", "Continued"),
  (19, "SIGSTOP", "Stopped (signal)"),
  (20, "SIGTSTP", "Stopped"),
  (21, "SIGTTIN", "Stopped (tty input)"),
  (22, "SIGTTOU", "Stopped (tty output)"),
  (23, "SIGURG", "Urgent I/O condition"),
  (24, "SIGXCPU", "CPU time limit exceeded"),
  (25, "SIGXFSZ", "File size limit exceeded"),
  (26, "SIGVTALRM", "Virtual timer expired"),
  (27, "SIGPROF", "Profiling timer expired"),
  (28, "SIGWINCH", "Window changed"),
  (29, "SIGIO", "I/O possible"),
  (30, "SIGPWR", "Power failure"),
  (31, "SIGSYS", "Bad system call")]

def signalText (signal : Nat) : String :=
  match signals.lookup signal with
  | some (_, text) => text
  | none =>
    if 34 ≤ signal ∧ signal ≤ 64 then "Real-time signal " ++ toString (signal - 34)
    else "Unknown signal " ++ toString signal

/-- The number of a stopping signal, with its symbol if it has one. -/
def stopText (signal : Nat) : String :=
  toString signal ++
    match signals.lookup signal with
    | some (symbol, _) => " (" ++ symbol ++ ")"
    | none => ""

def signed (raw : UInt32) : Int :=
  if raw.toNat < 0x80000000 then raw.toNat else (raw.toNat : Int) - 0x100000000

/-- What is said of a status that is neither an exit nor a signal. -/
def otherText (s : WaitStatus) : String :=
  match s.stopSignal? with
  | some signal => "stopped (not terminated) by signal: " ++ stopText signal
  | none =>
    if s.continued then "continued (WIFCONTINUED)"
    else
      "unrecognised wait status: " ++ toString (signed s.raw) ++ " 0x" ++
        String.ofList (Text.hexadecimal s.raw.toNat)

def describe (s : WaitStatus) : String :=
  match s.exitCode?, s.signal? with
  | some code, _ => "exit status " ++ toString code
  | none, some signal => "terminated by " ++ signalText signal
  | none, none => s.otherText

end WaitStatus

end LineShell
