import LineShell.Proofs.Readings

/-!
# Prompts that fail

A source prompts before it reads. Where the prompt cannot be written or flushed nothing is read, so
a source gives the same chunks, in the same order, to the calls whose prompts are taken, whatever
prompts fail between them.
-/

namespace LineShell

variable {World : Type}

namespace Sink

/-- Handing over a text fails where writing it does, or else flushing it. -/
theorem deliver_fault_iff (k : Sink) (text : String) (fault : IoError) :
    (k.deliver text).fault = some fault ↔
      (k.write text).fault = some fault ∨
        (k.write text).fault = none ∧ (k.write text).sink.flush.fault = some fault := by
  unfold deliver
  cases h : (k.write text).fault <;> simp [h]

/-- What comes of handing over a text once more, after some times before. -/
def deliveries (k : Sink) (text : String) : (before : Nat) → Delivery
  | 0 => k.deliver text
  | n + 1 => (k.deliver text).sink.deliveries text n

/-- How often that went well in the first so many times. -/
def served (k : Sink) (text : String) (n : Nat) : Nat :=
  (List.range n).countP fun i => (k.deliveries text i).fault.isNone

theorem served_succ_of_none {k : Sink} {text : String} {n : Nat}
    (h : (k.deliveries text n).fault = none) : k.served text (n + 1) = k.served text n + 1 := by
  rw [served, List.range_succ, List.countP_append, List.countP_singleton, h]
  rfl

theorem served_succ (k : Sink) (text : String) (n : Nat) :
    k.served text (n + 1) =
      (k.deliver text).sink.served text n + if (k.deliver text).fault.isNone then 1 else 0 := by
  rw [served, List.range_succ_eq_map, List.countP_cons, List.countP_map]
  rfl

/-- As long as it never goes well, it has never gone well. -/
theorem served_eq_zero {k : Sink} {text : String} {n : Nat}
    (h : ∀ i < n, (k.deliveries text i).fault ≠ none) : k.served text n = 0 := by
  rw [served, List.countP_eq_zero]
  intro i hi
  simpa [Option.isNone_iff_eq_none] using h i (List.mem_range.1 hi)

end Sink

/-- What is left of an input after some attempts to take a chunk. -/
def ByteInput.after (limit : Nat) : Nat → ByteInput → ByteInput
  | 0, input => input
  | n + 1, input => after limit n (input.next limit).2

namespace BufferedSource

theorem read_of_fault {s : BufferedSource} {prompt : String} {fault : IoError}
    (h : (s.prompts.deliver prompt).fault = some fault) (world : World) :
    (lines World).read prompt s world =
      ⟨[.prompted (s.prompts.deliver prompt).taken], .error (.io fault),
        { s with prompts := (s.prompts.deliver prompt).sink }, world⟩ := by
  simp only [lines, read, h]

theorem read_of_no_fault {s : BufferedSource} {prompt : String}
    (h : (s.prompts.deliver prompt).fault = none) (world : World) :
    (lines World).read prompt s world =
      ⟨[.prompted (s.prompts.deliver prompt).taken],
        ReadOutcome.ofAttempt (s.input.next (chunkLimit s.maxLine)).1,
        { s with
          prompts := (s.prompts.deliver prompt).sink
          input := (s.input.next (chunkLimit s.maxLine)).2 }, world⟩ := by
  simp only [lines, read, h]

/-- A call whose prompt fails gives that failure and leaves the input alone. Any other takes the
chunk that is next, however many prompts have failed before. -/
theorem call_eq (prompt : String) (n : Nat) (s : BufferedSource) (world : World) :
    let limit := chunkLimit s.maxLine
    let served := s.prompts.served prompt
    ((lines World).call prompt n s world).outcome =
        (match (s.prompts.deliveries prompt n).fault with
        | some fault => .error (.io fault)
        | none => ReadOutcome.ofAttempt ((s.input.after limit (served n)).next limit).1) ∧
      ((lines World).call prompt n s world).source.input =
        s.input.after limit (served (n + 1)) := by
  intro limit served
  induction n generalizing s world with
  | zero =>
    have hserved : served 1 = if (s.prompts.deliver prompt).fault.isNone then 1 else 0 :=
      (s.prompts.served_succ prompt 0).trans (Nat.zero_add _)
    rw [hserved, LineSource.call, Sink.deliveries]
    cases hf : (s.prompts.deliver prompt).fault with
    | some fault =>
      rw [read_of_fault hf]
      exact ⟨rfl, rfl⟩
    | none =>
      rw [read_of_no_fault hf]
      exact ⟨rfl, rfl⟩
  | succ n ih =>
    -- The first call moves the count and the input on together, or neither of them.
    have hserved : ∀ m, served (m + 1) = (s.prompts.deliver prompt).sink.served prompt m +
        if (s.prompts.deliver prompt).fault.isNone then 1 else 0 := s.prompts.served_succ prompt
    rw [hserved, hserved, LineSource.call]
    cases hf : (s.prompts.deliver prompt).fault with
    | some fault =>
      rw [read_of_fault hf]
      exact ih _ world
    | none =>
      rw [read_of_no_fault hf]
      exact ih _ world

/-- After any number of calls whose prompts fail, the first whose prompt does not gives the line
that it would have given at once. -/
theorem call_of_failures {s : BufferedSource} {prompt : String} {n : Nat}
    (hbefore : ∀ i < n, (s.prompts.deliveries prompt i).fault ≠ none)
    (hnow : (s.prompts.deliveries prompt n).fault = none) (world : World) :
    let atOnce := (lines World).read prompt { s with prompts := .healthy } world
    ((lines World).call prompt n s world).outcome = atOnce.outcome ∧
      ((lines World).call prompt n s world).source.input = atOnce.source.input := by
  intro atOnce
  have hread : atOnce = _ := read_of_no_fault (Sink.isHealthy_healthy.deliver prompt).2.1 world
  obtain ⟨houtcome, hinput⟩ := call_eq prompt n s world
  rw [hnow, Sink.served_eq_zero hbefore] at houtcome
  rw [Sink.served_succ_of_none hnow, Sink.served_eq_zero hbefore] at hinput
  rw [hread]
  exact ⟨houtcome, hinput⟩

end BufferedSource

end LineShell
