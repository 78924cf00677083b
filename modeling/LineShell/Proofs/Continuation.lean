import LineShell.Proofs.Courses

/-!
# Input that goes on

Behind a newline a session over bytes goes on as one that begins there: if an `exit` came before,
what follows is not read, and otherwise the rounds over what follows come after the rounds over what
came before, the end of the input aside.
-/

namespace LineShell

theorem Trace.prompts_append (a b : Trace) : prompts (a ++ b) = prompts a ++ prompts b := by
  simp [prompts, String.join_append]

namespace Session

variable {Dir World : Type}

section

variable (host : Host Dir World) (settings : Settings) {prompts : Sink} {a : List UInt8}
  {s : State Dir World}

theorem piecesOf_append (ha : a = [] ∨ a.getLast? = some newline) (b : List UInt8) :
    piecesOf settings (a ++ b) = piecesOf settings a ++ piecesOf settings b :=
  chunks_append (chunkLimit_pos settings.maxLine) ha b

theorem courseOver_append (ha : a = [] ∨ a.getLast? = some newline) (b : List UInt8)
    (s : State Dir World) :
    courseOver host settings (a ++ b) s =
      course host { maxArgs := settings.maxArgs, mode := settings.split }
        [.prompted settings.prompt]
        ((piecesOf settings a).map chunkLine ++ (piecesOf settings b).map chunkLine) s := by
  rw [courseOver, piecesOf_append settings ha, List.map_append]

theorem overBytes_ending (hp : prompts.IsHealthy) (hs : s.IsHealthy) (bytes : List UInt8) :
    let t : Tokenizer := { maxArgs := settings.maxArgs, mode := settings.split }
    (overBytes host settings prompts bytes s).ending =
      if (piecesOf settings bytes).any fun piece => (t.tokenize (chunkLine piece)).any isExit
      then .ok .exit else .ok .endOfInput := by
  intro t
  obtain ⟨hcourse, -⟩ := overBytes_course host settings hp bytes s
  refine (congrArg Course.ending hcourse).trans ?_
  rw [courseOver, course_ending hs, List.any_map]
  rfl

/-- A session that ends before its input does is the same if its input goes on behind a newline. -/
theorem overBytes_append_of_ending (hp : prompts.IsHealthy)
    (ha : a = [] ∨ a.getLast? = some newline)
    (he : (overBytes host settings prompts a s).ending ≠ .ok .endOfInput) (b : List UInt8) :
    let first := overBytes host settings prompts a s
    let whole := overBytes host settings prompts (a ++ b) s
    whole.course = first.course ∧
      whole.source.input.bytes = first.source.input.bytes ++ b := by
  intro first whole
  obtain ⟨hfirst, hleft⟩ := overBytes_course host settings hp a s
  obtain ⟨hwhole, hleft'⟩ := overBytes_course host settings hp (a ++ b) s
  have hne : (courseOver host settings a s).ending ≠ .ok .endOfInput := hfirst ▸ he
  obtain ⟨happend, hlength⟩ := course_append_of_ending hne ((piecesOf settings b).map chunkLine)
  have hsame : whole.course = first.course := by
    rw [hwhole, courseOver_append host settings ha, happend, hfirst]
    rfl
  have hrounds : whole.rounds = first.rounds := congrArg Course.rounds hsame
  have hle : first.rounds.length ≤ (piecesOf settings a).length := by
    rw [← courseOver, ← hfirst, List.length_map] at hlength
    exact hlength
  refine ⟨hsame, ?_⟩
  calc whole.source.input.bytes
      = ((piecesOf settings (a ++ b)).drop first.rounds.length).flatten := by rw [hleft', hrounds]
    _ = ((piecesOf settings a).drop first.rounds.length ++ piecesOf settings b).flatten := by
      rw [piecesOf_append settings ha, List.drop_append_of_le_length hle]
    _ = first.source.input.bytes ++ b := by
      rw [List.flatten_append, flatten_piecesOf, hleft]

/-- Any other session goes on with the session over what follows, from the state that it left. Only
the round that found the end of its input is gone. -/
theorem overBytes_append_of_endOfInput (hp : prompts.IsHealthy)
    (ha : a = [] ∨ a.getLast? = some newline)
    (he : (overBytes host settings prompts a s).ending = .ok .endOfInput) (b : List UInt8) :
    let first := overBytes host settings prompts a s
    ∃ rounds, first.rounds = rounds ++ [lastRound [.prompted settings.prompt] first.state] ∧
      (overBytes host settings prompts (a ++ b) s).course =
        (overBytes host settings prompts b first.state).course.after rounds := by
  intro first
  obtain ⟨hfirst, -⟩ := overBytes_course host settings hp a s
  obtain ⟨hwhole, -⟩ := overBytes_course host settings hp (a ++ b) s
  obtain ⟨hsecond, -⟩ := overBytes_course host settings hp b first.state
  have hend : (courseOver host settings a s).ending = .ok .endOfInput := hfirst ▸ he
  obtain ⟨rounds, hrounds, happend⟩ :=
    course_append_of_endOfInput hend ((piecesOf settings b).map chunkLine)
  rw [← courseOver_append host settings ha, ← hwhole, ← courseOver, ← courseOver,
    ← hfirst] at happend
  rw [← courseOver, ← hfirst] at hrounds
  exact ⟨rounds, hrounds, happend.trans (congrArg _ hsecond.symm)⟩

end

/-- A session over bytes that go on behind a newline: if the session over the first bytes ends as an
`exit`, it is the whole session, and the other bytes are left. Otherwise the session over the other
bytes follows, from the state that the first one left, and the round that found the end of the first
bytes, with its prompt, is not there. -/
theorem run_append (host : Host Dir World) (settings : Settings) (a b : List UInt8)
    (ha : a = [] ∨ a.getLast? = some newline) (prompts : Sink) (hp : prompts.IsHealthy)
    (s : State Dir World) (hs : s.IsHealthy) :
    let first := overBytes host settings prompts a s
    let second := overBytes host settings prompts b first.state
    let whole := overBytes host settings prompts (a ++ b) s
    (first.ending = .ok .exit →
      whole.ending = .ok .exit ∧ whole.rounds = first.rounds ∧ whole.events = first.events ∧
        whole.state = first.state ∧ whole.source.input.bytes = first.source.input.bytes ++ b) ∧
    (first.ending ≠ .ok .exit →
      first.ending = .ok .endOfInput ∧ whole.ending = second.ending ∧
        whole.rounds = first.rounds.dropLast ++ second.rounds ∧
        whole.events.account = first.events.account ++ second.events.account ∧
        whole.state = second.state ∧
        ∃ before, first.events.prompts = before ++ settings.prompt ∧
          whole.events.prompts = before ++ second.events.prompts) := by
  intro first second whole
  constructor
  · intro he
    have hne : first.ending ≠ .ok .endOfInput := fun h => by cases he.symm.trans h
    obtain ⟨hsame, hleft⟩ := overBytes_append_of_ending host settings hp ha hne b
    have hrounds : whole.rounds = first.rounds := congrArg Course.rounds hsame
    exact ⟨(congrArg Course.ending hsame).trans he, hrounds,
      congrArg (List.flatMap Round.events) hrounds, congrArg Course.state hsame, hleft⟩
  · intro he
    have hend : first.ending = .ok .endOfInput := by
      have hends := overBytes_ending host settings hp hs a
      simp only at hends
      split at hends
      · exact absurd hends he
      · exact hends
    obtain ⟨rounds, hfirst, hsame⟩ := overBytes_append_of_endOfInput host settings hp ha hend b
    have hwhole : whole.rounds = rounds ++ second.rounds := congrArg Course.rounds hsame
    have hevents : first.events = rounds.flatMap Round.events ++
        [.prompted settings.prompt, .logged (Log.debug "end of input")] := by
      rw [Run.events, hfirst, List.flatMap_append, List.flatMap_singleton]
      rfl
    have hevents' : whole.events = rounds.flatMap Round.events ++ second.events := by
      rw [Run.events, hwhole, List.flatMap_append]
      rfl
    refine ⟨hend, congrArg Course.ending hsame, ?_, ?_, congrArg Course.state hsame,
      Trace.prompts (rounds.flatMap Round.events), ?_, ?_⟩
    · rw [hwhole, hfirst, List.dropLast_concat]
    · rw [hevents, hevents']
      simp
    · rw [hevents, Trace.prompts_append]
      simp [Trace.prompts, Event.prompt]
    · rw [hevents', Trace.prompts_append]

/-- A launch and an `exit`, in either order. -/
theorem run_append_two :
    let host : Host Unit Nat :=
      { chdir := fun world _ _ => (.error (.os 2), world)
        launch := fun world _ _ => (.error (.os 2), world + 1) }
    let session := overBytes host {} .healthy
    let go : List UInt8 := [108, 115, 10]
    let leave : List UInt8 := [101, 120, 105, 116, 10]
    let s : State Unit Nat := ⟨(), 0, .healthy, .healthy⟩
    go.getLast? = some newline ∧ leave.getLast? = some newline ∧ Sink.healthy.IsHealthy ∧
      s.IsHealthy ∧
      ((session leave s).ending = .ok .exit ∧
        (session (leave ++ go) s).rounds = (session leave s).rounds ∧
        (session (leave ++ go) s).source.input.bytes = (session leave s).source.input.bytes ++ go) ∧
      ((session go s).ending = .ok .endOfInput ∧
        (session (go ++ leave) s).ending = .ok .exit ∧
        (session leave (session go s).state).ending = .ok .exit ∧
        (session (go ++ leave) s).rounds =
          (session go s).rounds.dropLast ++ (session leave (session go s).state).rounds) := by
  intro host session go leave s
  have hp := Sink.isHealthy_healthy
  have hs : s.IsHealthy := ⟨hp, hp⟩
  have hgo : (session go s).ending = .ok .endOfInput := by
    rw [overBytes_ending host {} hp hs, if_neg (by decide +kernel)]
  have hleave : (session leave s).ending = .ok .exit := by
    rw [overBytes_ending host {} hp hs, if_pos (by decide +kernel)]
  have hboth : (session (go ++ leave) s).ending = .ok .exit := by
    rw [overBytes_ending host {} hp hs, if_pos (by decide +kernel)]
  obtain ⟨hfirst, -⟩ := run_append host {} leave go (.inr rfl) .healthy hp s hs
  obtain ⟨-, hrounds, -, -, hleft⟩ := hfirst hleave
  obtain ⟨-, hsecond⟩ := run_append host {} go leave (.inr rfl) .healthy hp s hs
  obtain ⟨hend, hlast, hrounds', -⟩ := hsecond fun h => by cases h.symm.trans hgo
  exact ⟨rfl, rfl, hp, hs, ⟨hleave, hrounds, hleft⟩, hend, hboth, hlast.symm.trans hboth, hrounds'⟩

end Session

end LineShell
