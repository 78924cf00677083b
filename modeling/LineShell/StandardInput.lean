import LineShell.Line.Source
import LineShell.Machine

/-!
# Standard input of a machine

A shell takes its standard input in blocks, and what it has taken ahead is no longer there for the
programs that it runs. A source keeps the bytes taken ahead; the machine has the rest. The input may
be one that cannot be read, or not to its end.
-/

namespace LineShell

/-- How far a shell has come with its standard input: the bytes taken ahead, the most bytes that may
still be read, and the failure that reading on then meets. -/
structure StandardInput where
  ahead : List UInt8
  left : Nat
  failure : Option ReadFailure := none
  deriving DecidableEq, Repr

namespace StandardInput

def block : Nat := 8192

def start (m : Machine) (failure : Option ReadFailure) : StandardInput :=
  { ahead := [], left := m.input.length, failure }

def available (s : StandardInput) (m : Machine) : List UInt8 := (s.ahead ++ m.input).take s.left

def blocksFor (bytes : Nat) : Nat := (bytes + block - 1) / block * block

def advance (s : StandardInput) (m : Machine) (bytes : Nat) : StandardInput × Machine :=
  if bytes ≤ s.ahead.length then
    ({ s with ahead := s.ahead.drop bytes, left := s.left - bytes }, m)
  else
    let beyond := bytes - s.ahead.length
    let taken := blocksFor beyond
    ({ s with ahead := (m.input.take taken).drop beyond, left := s.left - bytes },
      { m with input := m.input.drop taken })

theorem advance_left (s : StandardInput) (m : Machine) (bytes : Nat) :
    (s.advance m bytes).1.left = s.left - bytes := by
  unfold advance
  split <;> rfl

/-- Takes a chunk. What a failing read had gathered is lost. -/
def next (limit : Nat) (s : StandardInput) (m : Machine) :
    Except IoError (List UInt8) × StandardInput × Machine :=
  let bytes := (takeChunk limit (s.available m)).1
  let after := s.advance m bytes.length
  match s.failure with
  | none => (.ok bytes, after)
  | some failure => (if isFilled limit bytes then .ok bytes else .error failure.cause, after)

theorem next_source (limit : Nat) (s : StandardInput) (m : Machine) :
    (next limit s m).2 = s.advance m (takeChunk limit (s.available m)).1.length := by
  unfold next
  cases s.failure <;> rfl

theorem eq_of_next {limit : Nat} {s : StandardInput} {m : Machine} {chunk : List UInt8}
    (h : (next limit s m).1 = .ok chunk) : chunk = (takeChunk limit (s.available m)).1 := by
  unfold next at h
  cases hfailure : s.failure with
  | none => simpa [hfailure] using h.symm
  | some failure =>
    simp only [hfailure] at h
    split at h
    · exact (Except.ok.inj h).symm
    · cases h

def chunks : ByteSource StandardInput Machine where
  next := next
  left s := s.left
  left_lt := by
    intro limit s m chunk h nonempty
    rw [eq_of_next h] at nonempty
    have whole := congrArg List.length (takeChunk_append limit (s.available m))
    have bounded : (s.available m).length ≤ s.left := List.length_take_le _ _
    have := List.length_pos_iff.2 nonempty
    simp only [List.length_append] at whole
    simp only [next_source, advance_left]
    omega

/-- What the editor makes of an attempt to take a line. -/
def edited : Except IoError (List UInt8) → Except ShellError ReadOutcome
  | .error cause => .error (.readline (.io cause))
  | .ok bytes => ReadOutcome.ofEdited bytes

/-- Reads a line through the editor, which has no terminal. -/
def readEdited (showsPrompt : Bool) (prompt : String) (s : StandardInput) (m : Machine) :
    Reading StandardInput Machine :=
  let (bytes, source, world) := next ((s.available m).length + 1) s m
  ⟨LineEditor.opening showsPrompt prompt, edited bytes, source, world⟩

def editor (showsPrompt : Bool) : LineSource StandardInput Machine where
  read := readEdited showsPrompt
  left s := s.left
  left_lt := by
    intro prompt s m h
    cases hnext : (next ((s.available m).length + 1) s m).1 with
    | error cause => simp [Reading.continues, readEdited, edited, hnext] at h
    | ok bytes =>
      refine chunks.left_lt hnext ?_
      rintro rfl
      simp [Reading.continues, readEdited, edited, hnext, ReadOutcome.ofEdited] at h

end StandardInput

end LineShell
