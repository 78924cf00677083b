import LineShell.Event
import LineShell.Line.Chunk
import LineShell.Sink
import LineShell.Text.Clusters
import LineShell.Text.Fit

/-!
# Sources of lines

A session reads its lines from a source. A source prompts, then gives a line, says that the operator
abandoned one, says that the input is over, or fails. Here are the reader that takes bytes in
chunks, the line editor as far as it works without a terminal, and a list of outcomes fixed
beforehand.
-/

namespace LineShell

/-- What reading gives if it does not fail. An operator may abandon a line, which interrupts it. -/
inductive ReadOutcome where
  | line (text : String)
  | interrupted
  | endOfInput
  deriving DecidableEq, Repr

/-- What reading once leaves: what happened, what was read, and what the next read starts from. -/
structure Reading (Source World : Type) where
  events : Trace
  outcome : Except ShellError ReadOutcome
  source : Source
  world : World

/-- Reading may go on: there was a line, or one was abandoned. -/
def Reading.continues {Source World : Type} (r : Reading Source World) : Bool :=
  match r.outcome with
  | .ok (.line _) | .ok .interrupted => true
  | .ok .endOfInput | .error _ => false

/-- A way to read lines. A source has only so much left, and less after each line. -/
structure LineSource (Source World : Type) where
  read : (prompt : String) → Source → World → Reading Source World
  left : Source → Nat
  left_lt : ∀ {prompt source world}, (read prompt source world).continues = true →
    left (read prompt source world).source < left source

def LineSource.readAll {Source World : Type} (s : LineSource Source World) (prompt : String)
    (source : Source) (world : World) : List (Reading Source World) :=
  if _h : (s.read prompt source world).continues = true then
    s.read prompt source world ::
      s.readAll prompt (s.read prompt source world).source (s.read prompt source world).world
  else [s.read prompt source world]
termination_by s.left source
decreasing_by exact s.left_lt _h

/-- A way to take bytes from an input in chunks of a limited length; no bytes are the end. An input
has only so much left, and less after each chunk. -/
structure ByteSource (Source World : Type) where
  next : (limit : Nat) → Source → World → Except IoError (List UInt8) × Source × World
  left : Source → Nat
  left_lt : ∀ {limit source world chunk}, (next limit source world).1 = .ok chunk → chunk ≠ [] →
    left (next limit source world).2.1 < left source

/-- A failure that ends a read. An interruption is none, for the read that it meets is taken up
again. -/
structure ReadFailure where
  cause : IoError
  final : cause.group ≠ "Interrupted" := by decide
  deriving DecidableEq, Repr

def ReadFailure.inputOutput : ReadFailure := { cause := .inputOutput }

/-- Bytes that wait to be read. -/
structure ByteInput where
  bytes : List UInt8
  /-- Reading on after the last byte fails, where it would else find the end. -/
  broken : Bool := false
  failure : ReadFailure := .inputOutput
  deriving DecidableEq, Repr

/-- The next chunk; no bytes at the end. What a failing read had gathered is lost. -/
def ByteInput.next (input : ByteInput) (limit : Nat) : Except IoError (List UInt8) × ByteInput :=
  let piece := takeChunk limit input.bytes
  if input.broken && !isFilled limit piece.1 then
    (.error input.failure.cause, { input with bytes := [] })
  else (.ok piece.1, { input with bytes := piece.2 })

def ReadOutcome.ofChunk (chunk : List UInt8) : ReadOutcome :=
  if chunk.isEmpty then .endOfInput else .line (String.ofList (Text.Utf8.decodeLossy chunk))

/-- What an attempt to take a chunk says to a session. -/
def ReadOutcome.ofAttempt : Except IoError (List UInt8) → Except ShellError ReadOutcome
  | .error cause => .error (.io cause)
  | .ok chunk => .ok (.ofChunk chunk)

theorem ByteInput.next_length_lt {input : ByteInput} {limit : Nat} {chunk : List UInt8}
    (h : (input.next limit).1 = .ok chunk) (nonempty : chunk ≠ []) :
    (input.next limit).2.bytes.length < input.bytes.length := by
  have whole := congrArg List.length (takeChunk_append limit input.bytes)
  simp only [List.length_append] at whole
  by_cases lost : (input.broken && !isFilled limit (takeChunk limit input.bytes).1) = true
  · simp [next, lost] at h
  · simp only [next, lost, Bool.false_eq_true, ↓reduceIte, Except.ok.injEq] at h ⊢
    have := List.length_pos_iff.2 (h ▸ nonempty)
    omega

def ByteInput.chunks (World : Type) : ByteSource ByteInput World where
  next limit input world := ((input.next limit).1, (input.next limit).2, world)
  left input := input.bytes.length
  left_lt := ByteInput.next_length_lt

namespace LineSource

variable {Source World : Type}

def readChunk (maxLine : Nat) (bytes : ByteSource Source World) (prompt : String) (source : Source)
    (world : World) : Reading Source World :=
  let (chunk, source, world) := bytes.next (chunkLimit maxLine) source world
  ⟨[.prompted prompt], ReadOutcome.ofAttempt chunk, source, world⟩

/-- The chunks of a source of bytes as lines, where the prompts are taken. -/
def buffered (maxLine : Nat) (bytes : ByteSource Source World) : LineSource Source World where
  read := readChunk maxLine bytes
  left := bytes.left
  left_lt := by
    intro prompt source world h
    cases chunk : (bytes.next (chunkLimit maxLine) source world).1 with
    | error cause => simp [Reading.continues, readChunk, chunk, ReadOutcome.ofAttempt] at h
    | ok taken =>
      refine bytes.left_lt chunk ?_
      rintro rfl
      simp [Reading.continues, readChunk, chunk, ReadOutcome.ofAttempt, ReadOutcome.ofChunk] at h

end LineSource

structure BufferedSource where
  maxLine : Nat
  prompts : Sink
  input : ByteInput

namespace BufferedSource

/-- Prompts and reads a chunk. If the prompt fails, nothing is read. -/
def read {World : Type} (prompt : String) (s : BufferedSource) (world : World) :
    Reading BufferedSource World :=
  let prompted := s.prompts.deliver prompt
  match prompted.fault with
  | some fault =>
    ⟨[.prompted prompted.taken], .error (.io fault), { s with prompts := prompted.sink }, world⟩
  | none =>
    let next := s.input.next (chunkLimit s.maxLine)
    ⟨[.prompted prompted.taken], ReadOutcome.ofAttempt next.1,
      { s with prompts := prompted.sink, input := next.2 }, world⟩

def lines (World : Type) : LineSource BufferedSource World where
  read := read
  left s := s.input.bytes.length
  left_lt := by
    intro prompt s world h
    cases fault : (s.prompts.deliver prompt).fault with
    | some e => simp [Reading.continues, read, fault] at h
    | none =>
      cases chunk : (s.input.next (chunkLimit s.maxLine)).1 with
      | error e => simp [Reading.continues, read, fault, chunk, ReadOutcome.ofAttempt] at h
      | ok bytes =>
        have nonempty : bytes ≠ [] := by
          rintro rfl
          simp [Reading.continues, read, fault, chunk, ReadOutcome.ofAttempt,
            ReadOutcome.ofChunk] at h
        simpa [read, fault] using ByteInput.next_length_lt chunk nonempty

/-- Where the prompts are taken, it reads what its bytes give in chunks. -/
theorem read_of_isHealthy {World : Type} {s : BufferedSource} (h : s.prompts.IsHealthy)
    (prompt : String) (world : World) :
    let chunked := (LineSource.buffered s.maxLine (ByteInput.chunks World)).read prompt s.input world
    read prompt s world =
      ⟨chunked.events, chunked.outcome,
        { s with prompts := (s.prompts.deliver prompt).sink, input := chunked.source },
        chunked.world⟩ := by
  obtain ⟨taken, fault, -⟩ := h.deliver prompt
  simp only [read, fault, taken]
  rfl

end BufferedSource

/-- A text without the newline at its end, nor a carriage return right before that. -/
def stripLineEnd (text : List Char) : List Char :=
  if text.getLast? = some '\n' then
    if text.dropLast.getLast? = some '\r' then text.dropLast.dropLast else text.dropLast
  else text

/-- What the editor reads in the bytes of a line that does not come from a terminal: backspaces act,
and the mark at its end goes. No bytes are the end of the input. -/
def ReadOutcome.ofEdited (bytes : List UInt8) : Except ShellError ReadOutcome :=
  if bytes.isEmpty then .ok .endOfInput
  else
    match Text.Utf8.decode? bytes with
    | none => .error (.readline (.io .invalidUtf8))
    | some text => .ok (.line (String.ofList (Text.applyBackspaces (stripLineEnd text))))

/-- The line editor away from a terminal. -/
structure LineEditor where
  /-- The terminal cannot edit, so the prompt is written plainly; else there is none. -/
  showsPrompt : Bool
  bytes : List UInt8

namespace LineEditor

/-- What the editor notes and shows before it reads. -/
def opening (showsPrompt : Bool) (prompt : String) : Trace :=
  if showsPrompt then [.logged (Log.debug "unsupported terminal"), .prompted prompt]
  else [.logged (Log.debug "stdin is not a tty")]

def read {World : Type} (prompt : String) (s : LineEditor) (world : World) :
    Reading LineEditor World :=
  let piece := takeChunk s.bytes.length s.bytes
  ⟨opening s.showsPrompt prompt, ReadOutcome.ofEdited piece.1, { s with bytes := piece.2 }, world⟩

theorem not_continues_nil {World : Type} {prompt : String} {s : LineEditor} {world : World}
    (h : (takeChunk s.bytes.length s.bytes).1 = []) :
    (read prompt s world).continues = false := by
  simp [Reading.continues, read, h, ReadOutcome.ofEdited]

def lines (World : Type) : LineSource LineEditor World where
  read := read
  left s := s.bytes.length
  left_lt := by
    intro prompt s world h
    have whole := congrArg List.length (takeChunk_append s.bytes.length s.bytes)
    have nonempty : (takeChunk s.bytes.length s.bytes).1 ≠ [] := by
      intro none
      rw [not_continues_nil none] at h
      cases h
    have := List.length_pos_iff.2 nonempty
    simp only [List.length_append] at whole
    show (takeChunk s.bytes.length s.bytes).2.length < s.bytes.length
    omega

end LineEditor

/-- What is taken of a line from an editor, and the note that there was more. -/
def cutLine (maxLine : Nat) (text : List Char) : Trace × List Char :=
  let kept := Text.fitting (maxLine - 1) text
  if Text.byteLength text ≤ maxLine - 1 then ([], text)
  else
    ([.logged (Log.debug ("input line truncated to " ++ toString (Text.byteLength kept) ++
      " bytes"))], kept)

def ReadOutcome.cut (maxLine : Nat) :
    Except ShellError ReadOutcome → Trace × Except ShellError ReadOutcome
  | .ok (.line text) =>
    let (events, kept) := cutLine maxLine text.toList
    (events, .ok (.line (String.ofList kept)))
  | outcome => ([], outcome)

namespace LineSource

variable {Source World : Type}

def readCut (maxLine : Nat) (editor : LineSource Source World) (prompt : String) (source : Source)
    (world : World) : Reading Source World :=
  let reading := editor.read prompt source world
  let (events, outcome) := ReadOutcome.cut maxLine reading.outcome
  { reading with events := reading.events ++ events, outcome }

theorem continues_readCut {maxLine : Nat} {editor : LineSource Source World} {prompt : String}
    {source : Source} {world : World} :
    (editor.readCut maxLine prompt source world).continues =
      (editor.read prompt source world).continues := by
  simp only [Reading.continues, readCut]
  rcases (editor.read prompt source world).outcome with e | outcome
  · rfl
  · cases outcome <;> rfl

/-- An editor as a source of lines with so many bytes at most, an end mark counted. -/
def cut (maxLine : Nat) (editor : LineSource Source World) : LineSource Source World where
  read := editor.readCut maxLine
  left := editor.left
  left_lt h := editor.left_lt (continues_readCut.symm.trans h)

end LineSource

/-- A list of outcomes, after which the input is over. -/
structure Script where
  prompts : Sink
  outcomes : List (Except ShellError ReadOutcome)

namespace Script

/-- Prompts and takes the next outcome. If the prompt fails, none is taken. -/
def read {World : Type} (prompt : String) (s : Script) (world : World) : Reading Script World :=
  let prompted := s.prompts.deliver prompt
  match prompted.fault with
  | some fault =>
    ⟨[.prompted prompted.taken], .error (.io fault), { s with prompts := prompted.sink }, world⟩
  | none =>
    ⟨[.prompted prompted.taken], s.outcomes.headD (.ok .endOfInput),
      { prompts := prompted.sink, outcomes := s.outcomes.tail }, world⟩

def lines (World : Type) : LineSource Script World where
  read := read
  left s := s.outcomes.length
  left_lt := by
    intro prompt s world h
    cases fault : (s.prompts.deliver prompt).fault with
    | some e => simp [Reading.continues, read, fault] at h
    | none =>
      cases outcomes : s.outcomes with
      | nil => simp [Reading.continues, read, fault, outcomes] at h
      | cons o rest => simp [read, fault, outcomes]

end Script

end LineShell
