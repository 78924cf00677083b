import LineShell.Proofs.Rounds

/-!
# The stages of a session

A session is the iteration of one step: read once, and do what there is to do about it. Its rounds
are the first stages, up to and with the first that ends it, and nothing is read behind that.
-/

namespace LineShell

variable {Dir World Source : Type}

/-- Where a session stands before it reads: what is left of its source, and its state. -/
structure Stage (Source Dir World : Type) where
  source : Source
  state : State Dir World

namespace Stage

variable (frame : Session.Frame Source Dir World) (p : Stage Source Dir World)

/-- What is read at a stage. -/
def reading : Reading Source World := frame.source.read frame.prompt p.source p.state.world

/-- The state in which the session finds what it read. -/
def ready : State Dir World := { p.state with world := (p.reading frame).world }

/-- What the session does about it. -/
def reaction : Step Dir World (Option (Except ShellError SessionEnd)) :=
  Session.react frame.host frame.tokenizer (p.reading frame).outcome (p.ready frame)

/-- Both as a round. -/
def round : Session.Round Dir World :=
  ⟨(p.reading frame).events, (p.reading frame).outcome, (p.reaction frame).events,
    (p.reaction frame).state⟩

/-- Where the session stands after it. -/
def next : Stage Source Dir World := ⟨(p.reading frame).source, (p.reaction frame).state⟩

/-- Where the session stands after a number of rounds, if none of them ends it. -/
def after : Nat → Stage Source Dir World → Stage Source Dir World
  | 0, p => p
  | n + 1, p => after n (p.next frame)

end Stage

namespace Session

/-- A session goes through its stages up to the first that ends it, and ends there. -/
theorem run_stages (frame : Frame Source Dir World) (source : Source) (s : State Dir World) :
    let stage := fun i => Stage.after frame i ⟨source, s⟩
    ∃ n, (∀ i < n, ((stage i).reaction frame).result = none) ∧
      ((stage n).reaction frame).result = some (run frame source s).ending ∧
      (run frame source s).rounds = (List.range (n + 1)).map (fun i => (stage i).round frame) ∧
      ⟨(run frame source s).source, (run frame source s).state⟩ = stage (n + 1) := by
  intro stage
  -- Each round that ends nothing leaves less to read.
  induction hleft : frame.source.left source using Nat.strongRecOn generalizing source s with
  | ind left ih =>
    cases he : ((⟨source, s⟩ : Stage Source Dir World).reaction frame).result with
    | some ending =>
      have hrun : run frame source s = _ := run_of_ending rfl he
      rw [hrun]
      exact ⟨0, by simp, he, rfl, rfl⟩
    | none =>
      have hrun : run frame source s = _ := run_of_no_ending rfl he
      have hlt := frame.source.left_lt (continues_of_react he)
      obtain ⟨n, hbefore, hlast, hrounds, hend⟩ := ih _ (hleft ▸ hlt) _
        ((⟨source, s⟩ : Stage Source Dir World).reaction frame).state rfl
      rw [hrun]
      refine ⟨n + 1, ?_, hlast, ?_, hend⟩
      · intro i hi
        cases i with
        | zero => exact he
        | succ i => exact hbefore i (by omega)
      · rw [List.range_succ_eq_map, List.map_cons, List.map_map]
        exact congrArg (List.cons _) hrounds

end Session

end LineShell
