import LineShell.IoError

/-!
# Sinks

Text is written to a sink and flushed. Any write and any flush may fail. A text that the shell hands
over is one write here, though it may reach the stream in pieces: it is taken or lost as a whole, so
the part that a stream may have kept of it before it failed is not told. A sink is described by the
outcome of each of its operations, in the order in which they come.
-/

namespace LineShell

/-- Where text is written to. Operation `n` fails with the fault that its kind has for `n`. -/
structure Sink where
  writeFault : Nat → Option IoError
  flushFault : Nat → Option IoError
  used : Nat := 0

namespace Sink

def healthy : Sink := { writeFault := fun _ => none, flushFault := fun _ => none }

def full : Sink := { healthy with writeFault := fun _ => some .noSpace }

/-- A sink that takes everything but cannot be flushed. -/
def unflushable : Sink := { healthy with flushFault := fun _ => some .inputOutput }

def IsHealthy (k : Sink) : Prop := ∀ n, k.writeFault n = none ∧ k.flushFault n = none

def next (k : Sink) : Sink := { k with used := k.used + 1 }

/-- What came of handing text to a sink. -/
structure Delivery where
  taken : String
  fault : Option IoError
  sink : Sink

def flush (k : Sink) : Delivery := ⟨"", k.flushFault k.used, k.next⟩

/-- Writes a text, which is taken whole or lost whole. No text is no operation. -/
def write (k : Sink) (text : String) : Delivery :=
  if text = "" then ⟨"", none, k⟩
  else
    match k.writeFault k.used with
    | some fault => ⟨"", some fault, k.next⟩
    | none => ⟨text, none, k.next⟩

/-- Writes, and flushes if that went well. -/
def deliver (k : Sink) (text : String) : Delivery :=
  let written := k.write text
  match written.fault with
  | some _ => written
  | none =>
    let flushed := written.sink.flush
    ⟨written.taken, flushed.fault, flushed.sink⟩

theorem isHealthy_healthy : healthy.IsHealthy := fun _ => ⟨rfl, rfl⟩

theorem IsHealthy.next {k : Sink} (h : k.IsHealthy) : k.next.IsHealthy := h

/-- A healthy sink takes what it is given and stays healthy. -/
theorem IsHealthy.deliver {k : Sink} (h : k.IsHealthy) (text : String) :
    (k.deliver text).taken = text ∧ (k.deliver text).fault = none ∧
      (k.deliver text).sink.IsHealthy := by
  by_cases empty : text = ""
  · subst empty
    exact ⟨rfl, (h k.used).2, h⟩
  · have written : k.write text = ⟨text, none, k.next⟩ := by simp [write, empty, (h k.used).1]
    simp only [Sink.deliver, written, flush]
    exact ⟨trivial, (h k.next.used).2, h⟩

end Sink

end LineShell
