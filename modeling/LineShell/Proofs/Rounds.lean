import LineShell.Proofs.Commands
import LineShell.Proofs.Readings

/-!
# Rounds of a session

A session that reads from a list of outcomes takes them one by one, up to the first that ends it,
and does in each round what the command of its line comes to.
-/

namespace LineShell

/-- The elements up to the first of a kind, with it. -/
def upTo {α : Type} (p : α → Bool) : List α → List α
  | [] => []
  | a :: l => if p a then [a] else a :: upTo p l

theorem upTo_cons_of_true {α : Type} {p : α → Bool} {a : α} (h : p a = true) (l : List α) :
    upTo p (a :: l) = [a] := by
  rw [upTo, if_pos h]

theorem upTo_cons_of_false {α : Type} {p : α → Bool} {a : α} (h : p a = false) (l : List α) :
    upTo p (a :: l) = a :: upTo p l := by
  rw [upTo, if_neg (by simp [h])]

theorem mem_of_mem_upTo {α : Type} {p : α → Bool} {a : α} {l : List α} (h : a ∈ upTo p l) :
    a ∈ l := by
  induction l with
  | nil => exact h
  | cons b l ih =>
    cases hb : p b with
    | true =>
      rw [upTo_cons_of_true hb] at h
      exact List.mem_cons.2 (.inl (List.mem_singleton.1 h))
    | false =>
      rw [upTo_cons_of_false hb] at h
      exact List.mem_cons.2 ((List.mem_cons.1 h).imp_right ih)

/-- What stands before the first element of a kind is none of that kind. -/
theorem upTo_append_of_first {α : Type} {p : α → Bool} {before : List α} {last : α}
    (hb : ∀ a ∈ before, p a = false) (hl : p last = true) (after : List α) :
    upTo p (before ++ last :: after) = before ++ [last] := by
  induction before with
  | nil => exact upTo_cons_of_true hl after
  | cons a before ih =>
    rw [List.cons_append, upTo_cons_of_false (hb a (by simp)), ih fun b h => hb b (by simp [h])]
    rfl

theorem upTo_map {α β : Type} {p : α → Bool} {q : β → Bool} {f : α → β} (h : ∀ a, q (f a) = p a)
    (l : List α) : (upTo p l).map f = upTo q (l.map f) := by
  induction l with
  | nil => rfl
  | cons a l ih =>
    cases hp : p a with
    | true => rw [upTo_cons_of_true hp, List.map_cons, List.map_cons,
        upTo_cons_of_true ((h a).trans hp), List.map_nil]
    | false => rw [upTo_cons_of_false hp, List.map_cons, List.map_cons,
        upTo_cons_of_false ((h a).trans hp), ih]

namespace Session

variable {Dir World Source : Type}

/-- The command of what was read. -/
def commandOf? (t : Tokenizer) : Except ShellError ReadOutcome → Option ArgumentVector
  | .ok (.line text) => t.tokenize text
  | _ => none

/-- The ending that a reading brings, if it brings one. -/
def endingOf? (t : Tokenizer) :
    Except ShellError ReadOutcome → Option (Except ShellError SessionEnd)
  | .error e => some (.error e)
  | .ok .endOfInput => some (.ok .endOfInput)
  | .ok .interrupted => none
  | .ok (.line text) => if (t.tokenize text).any isExit then some (.ok .exit) else none

/-- What some outcomes come to, one after the other. -/
def replay (host : Host Dir World) (t : Tokenizer) :
    List (Except ShellError ReadOutcome) → Place Dir World → List (Account × Place Dir World)
  | [], _ => []
  | o :: outcomes, p =>
    effectOf host (commandOf? t o) p ::
      replay host t outcomes (effectOf host (commandOf? t o) p).2

/-- What a session does about a reading is what the command of it comes to. -/
theorem react_does (host : Host Dir World) (t : Tokenizer)
    (outcome : Except ShellError ReadOutcome) {s : State Dir World} (h : s.IsHealthy) :
    (react host t outcome s).Does (effectOf host (commandOf? t outcome) s.place).1
      (effectOf host (commandOf? t outcome) s.place).2 (endingOf? t outcome) := by
  match outcome with
  | .error e => exact ⟨rfl, rfl, h, rfl⟩
  | .ok .endOfInput => exact ⟨Trace.account_logged _ _, rfl, h, rfl⟩
  | .ok .interrupted => exact ⟨rfl, rfl, h, rfl⟩
  | .ok (.line text) =>
    obtain ⟨ha, hp, hs, hr⟩ := executeLine_does host t text h
    refine ⟨ha, hp, hs, ?_⟩
    simp only [react, hr, endingOf?]
    cases (t.tokenize text).any isExit <;> rfl

/-- A session over a list of outcomes, seen from outside. -/
structure Run.Follows (run : Run Source Dir World) (host : Host Dir World) (t : Tokenizer)
    (prompt : String) (outcomes : List (Except ShellError ReadOutcome)) (p : Place Dir World) :
    Prop where
  outcomes_eq : run.rounds.map Round.outcome = outcomes
  readings_eq : ∀ r ∈ run.rounds, r.reading = [.prompted prompt]
  effects_eq : (run.rounds.map fun r => (r.running.account, r.after.place)) =
    replay host t outcomes p
  ending_eq : outcomes.getLast?.bind (endingOf? t) = some run.ending
  state_eq : run.rounds.getLast?.map Round.after = some run.state

/-- A round that ends the session is its last. -/
theorem run_of_ending {frame : Frame Source Dir World} {source : Source} {s : State Dir World}
    {reading : Reading Source World} {ending : Except ShellError SessionEnd}
    (hr : frame.source.read frame.prompt source s.world = reading)
    (he : (react frame.host frame.tokenizer reading.outcome
      { s with world := reading.world }).result = some ending) :
    run frame source s =
      let step := react frame.host frame.tokenizer reading.outcome { s with world := reading.world }
      ⟨[⟨reading.events, reading.outcome, step.events, step.state⟩], ending, reading.source,
        step.state⟩ := by
  subst hr
  rw [run]
  split
  · next ending' hs =>
    obtain rfl : ending = ending' := Option.some.inj (he.symm.trans hs)
    rfl
  · next hs => exact absurd (he.symm.trans hs) (by simp)

/-- Any other round comes before the rest of the session. -/
theorem run_of_no_ending {frame : Frame Source Dir World} {source : Source} {s : State Dir World}
    {reading : Reading Source World}
    (hr : frame.source.read frame.prompt source s.world = reading)
    (he : (react frame.host frame.tokenizer reading.outcome
      { s with world := reading.world }).result = none) :
    run frame source s =
      let step := react frame.host frame.tokenizer reading.outcome { s with world := reading.world }
      let later := run frame reading.source step.state
      { later with
        rounds := ⟨reading.events, reading.outcome, step.events, step.state⟩ :: later.rounds } := by
  subst hr
  rw [run]
  split
  · next hs => exact absurd (he.symm.trans hs) (by simp)
  · rfl

/-- The outcomes that a session takes from a list: those up to the first that ends it. -/
def taken (t : Tokenizer) (outcomes : List (Except ShellError ReadOutcome)) :
    List (Except ShellError ReadOutcome) :=
  upTo (fun o => (endingOf? t o).isSome) (outcomes ++ [.ok .endOfInput])

/-- The round of an outcome that ends the session. -/
theorem run_follows_of_ending {frame : Frame Source Dir World}
    {R : Source → List (Except ShellError ReadOutcome) → Prop}
    (hf : frame.source.Follows frame.prompt R) {source : Source}
    {outcomes : List (Except ShellError ReadOutcome)} (hr : R source outcomes)
    {s : State Dir World} (hs : s.IsHealthy) {ending : Except ShellError SessionEnd}
    (he : endingOf? frame.tokenizer (outcomes.headD (.ok .endOfInput)) = some ending) :
    (run frame source s).Follows frame.host frame.tokenizer frame.prompt
        [outcomes.headD (.ok .endOfInput)] s.place ∧
      R (run frame source s).source (outcomes.drop (run frame source s).rounds.length) := by
  obtain ⟨hevents, houtcome, hsource, hworld⟩ := hf source outcomes s.world hr
  rcases hread : frame.source.read frame.prompt source s.world with ⟨events, o, source', world⟩
  simp only [hread] at hevents houtcome hsource hworld
  subst hevents hworld
  rw [← houtcome] at he ⊢
  obtain ⟨ha, hp, -, hres⟩ := react_does frame.host frame.tokenizer o hs
  rw [run_of_ending hread (hres.trans he)]
  refine ⟨⟨rfl, by simp, ?_, by simp [he], rfl⟩, ?_⟩
  · simp [replay, ha, hp]
  · simpa using hsource

/-- What is taken splits the list at the first outcome that ends the session. The end of the input
is one, so there is one. -/
theorem taken_split (t : Tokenizer) (outcomes : List (Except ShellError ReadOutcome)) :
    ∃ before last after, outcomes ++ [.ok .endOfInput] = before ++ last :: after ∧
      (∀ o ∈ before, endingOf? t o = none) ∧ taken t outcomes = before ++ [last] := by
  have hex : ∃ o ∈ outcomes ++ [.ok .endOfInput], (endingOf? t o).isSome = true :=
    ⟨.ok .endOfInput, by simp, rfl⟩
  obtain ⟨last, hfind⟩ := Option.isSome_iff_exists.1 (List.find?_isSome.2 hex)
  obtain ⟨hlast, before, after, hsplit, hbefore⟩ := List.find?_eq_some_iff_append.1 hfind
  simp only [Bool.not_eq_true', Option.isSome_eq_false_iff, Option.isNone_iff_eq_none] at hbefore
  refine ⟨before, last, after, hsplit, hbefore, ?_⟩
  have hnone : ∀ o ∈ before, (endingOf? t o).isSome = false := fun o h => by simp [hbefore o h]
  rw [taken, hsplit, upTo_append_of_first hnone hlast]

/-- A session over a source that follows a list takes no outcome twice and leaves none out. -/
theorem run_follows (frame : Frame Source Dir World)
    {R : Source → List (Except ShellError ReadOutcome) → Prop}
    (hf : frame.source.Follows frame.prompt R) {source : Source}
    {outcomes : List (Except ShellError ReadOutcome)} (hr : R source outcomes)
    {s : State Dir World} (hs : s.IsHealthy) :
    (run frame source s).Follows frame.host frame.tokenizer frame.prompt
        (taken frame.tokenizer outcomes) s.place ∧
      R (run frame source s).source (outcomes.drop (run frame source s).rounds.length) := by
  induction outcomes generalizing source s with
  | nil => exact run_follows_of_ending hf hr hs rfl
  | cons o outcomes ih =>
    cases he : endingOf? frame.tokenizer o with
    | some ending =>
      have ht : taken frame.tokenizer (o :: outcomes) = [o] := upTo_cons_of_true (by simp [he]) _
      rw [ht]
      exact run_follows_of_ending hf hr hs he
    | none =>
      have ht : taken frame.tokenizer (o :: outcomes) = o :: taken frame.tokenizer outcomes :=
        upTo_cons_of_false (by simp [he]) _
      obtain ⟨hevents, houtcome, hsource, hworld⟩ := hf source (o :: outcomes) s.world hr
      rcases hread : frame.source.read frame.prompt source s.world with ⟨events, o', source', world⟩
      simp only [hread, List.headD_cons, List.tail_cons] at hevents houtcome hsource hworld
      subst hevents houtcome hworld
      obtain ⟨ha, hp, hs', hres⟩ := react_does frame.host frame.tokenizer o' hs
      obtain ⟨⟨ho, hrd, hef, hen, hst⟩, hsrc⟩ := ih hsource hs'
      rw [run_of_no_ending hread (hres.trans he), ht]
      refine ⟨⟨?_, ?_, ?_, ?_, ?_⟩, hsrc⟩
      · simp [ho]
      · simpa using hrd
      · simp [replay, ha, hef, hp]
      · obtain ⟨last, hl, hb⟩ := Option.bind_eq_some_iff.1 hen
        simp [List.getLast?_cons, hl, hb]
      · obtain ⟨last, hl, hb⟩ := Option.map_eq_some_iff.1 hst
        simp [List.getLast?_cons, hl, hb]

/-! ## Rounds -/

/-- Each round does what the command of its outcome comes to somewhere. -/
theorem effect_of_mem {host : Host Dir World} {t : Tokenizer} {rounds : List (Round Dir World)}
    {p : Place Dir World}
    (h : (rounds.map fun r => (r.running.account, r.after.place)) =
      replay host t (rounds.map Round.outcome) p) {r : Round Dir World} (hr : r ∈ rounds) :
    ∃ q, r.running.account = (effectOf host (commandOf? t r.outcome) q).1 := by
  induction rounds generalizing p with
  | nil => simp at hr
  | cons first rounds ih =>
    rw [List.map_cons, List.map_cons, replay, List.cons.injEq] at h
    rcases List.mem_cons.1 hr with rfl | hr
    · exact ⟨p, congrArg Prod.fst h.1⟩
    · exact ih h.2 hr

theorem dispatches_effectOf (host : Host Dir World) (args? : Option ArgumentVector)
    (p : Place Dir World) : (effectOf host args? p).1.dispatches = args?.toList := by
  cases args? <;> rfl

theorem launches_effectOf (host : Host Dir World) (args? : Option ArgumentVector)
    (p : Place Dir World) :
    (effectOf host args? p).1.launches = (args?.filter isProgram).toList := by
  cases args? with
  | none => rfl
  | some args =>
    rw [Option.filter_some]
    simp only [effectOf, accountOf]
    split <;> rfl

/-- What is said at an ending. -/
def farewellAt : Option (Except ShellError SessionEnd) → String
  | some (.ok .exit) => Builtin.farewell
  | _ => ""

/-- A farewell is said by what ends the session as an `exit`, and by nothing else. -/
theorem output_effectOf (host : Host Dir World) (t : Tokenizer)
    (o : Except ShellError ReadOutcome) (p : Place Dir World) :
    (effectOf host (commandOf? t o) p).1.output = farewellAt (endingOf? t o) := by
  match o with
  | .error e => rfl
  | .ok .endOfInput => rfl
  | .ok .interrupted => rfl
  | .ok (.line text) =>
    simp only [commandOf?, endingOf?]
    cases t.tokenize text with
    | none => rfl
    | some args =>
      simp only [effectOf, accountOf, Option.any_some]
      split <;> rfl

/-! ## Whole sessions -/

/-- What rounds give at most one of each, a session gives in their order. -/
theorem filterMap_events {α : Type} {f : Event → Option α} {g : Round Dir World → Option α}
    {rounds : List (Round Dir World)} (h : ∀ r ∈ rounds, r.events.filterMap f = (g r).toList) :
    (rounds.flatMap Round.events).filterMap f = rounds.filterMap g := by
  induction rounds with
  | nil => rfl
  | cons r rounds ih =>
    rw [List.flatMap_cons, List.filterMap_append, h r (by simp), ih fun q hq => h q (by simp [hq]),
      List.filterMap_cons]
    cases g r <;> rfl

/-- What the shell says in a session whose last outcome alone ends it is said at the ending. -/
theorem output_events {t : Tokenizer} {rounds : List (Round Dir World)}
    {before : List (Except ShellError ReadOutcome)} {last : Except ShellError ReadOutcome}
    (hr : ∀ r ∈ rounds, r.events.output = farewellAt (endingOf? t r.outcome))
    (ho : rounds.map Round.outcome = before ++ [last])
    (hb : ∀ o ∈ before, endingOf? t o = none) :
    Trace.output (rounds.flatMap Round.events) = farewellAt (endingOf? t last) := by
  induction before generalizing rounds with
  | nil =>
    obtain ⟨r, rfl, rfl⟩ := List.map_eq_singleton_iff.1 ho
    simpa using hr r
  | cons o before ih =>
    obtain ⟨r, rest, rfl, rfl, hrest⟩ := List.map_eq_cons_iff.1 ho
    have hfirst : r.events.output = "" := by
      rw [hr r (by simp), hb r.outcome (by simp)]
      rfl
    have hlater := ih (fun q hq => hr q (by simp [hq])) hrest fun q hq => hb q (by simp [hq])
    rw [List.flatMap_cons, ← hlater]
    have happ := congrArg Account.output (Trace.account_append r.events (rest.flatMap Round.events))
    exact happ.trans (by simp [Account.append_def, Trace.account, hfirst])

section Follows

variable {run : Run Source Dir World} {host : Host Dir World} {t : Tokenizer} {prompt : String}
  {outcomes : List (Except ShellError ReadOutcome)} {p : Place Dir World}

/-- A round reads, which is in no account, and does what the command of its outcome comes to. -/
theorem Run.Follows.account_of_mem (h : run.Follows host t prompt outcomes p)
    {r : Round Dir World} (hr : r ∈ run.rounds) :
    ∃ q, r.events.account = (effectOf host (commandOf? t r.outcome) q).1 := by
  obtain ⟨q, hq⟩ := effect_of_mem (h.outcomes_eq ▸ h.effects_eq) hr
  refine ⟨q, ?_⟩
  rw [Round.events, h.readings_eq r hr]
  exact (Trace.account_prompted _ _).trans hq

/-- A session dispatches the commands of what it read, in order. -/
theorem Run.Follows.dispatches_eq (h : run.Follows host t prompt outcomes p) :
    run.events.dispatches = outcomes.filterMap (commandOf? t) := by
  rw [← h.outcomes_eq, List.filterMap_map]
  refine filterMap_events fun r hr => ?_
  obtain ⟨q, hq⟩ := h.account_of_mem hr
  exact (congrArg Account.dispatches hq).trans (dispatches_effectOf host _ q)

/-- It launches those of them that are programs. -/
theorem Run.Follows.launches_eq (h : run.Follows host t prompt outcomes p) :
    run.events.launches = outcomes.filterMap fun o => (commandOf? t o).filter isProgram := by
  rw [← h.outcomes_eq, List.filterMap_map]
  refine filterMap_events fun r hr => ?_
  obtain ⟨q, hq⟩ := h.account_of_mem hr
  exact (congrArg Account.launches hq).trans (launches_effectOf host _ q)

end Follows

/-- A session over a script runs its outcomes in order, each once, up to the first that is an
`exit`, the end of the input or an error, and ends as that one says. A failing command ends nothing:
it is reported in its round. -/
theorem run_script (host : Host Dir World) (settings : Settings) (script : Script)
    (s : State Dir World) (hp : script.prompts.IsHealthy) (hs : s.IsHealthy) :
    let t : Tokenizer := { maxArgs := settings.maxArgs, mode := settings.split }
    let run := run (.ofSettings host (Script.lines World) settings) script s
    ∃ before last after,
      script.outcomes ++ [.ok .endOfInput] = before ++ last :: after ∧
      (∀ o ∈ before, endingOf? t o = none) ∧ endingOf? t last = some run.ending ∧
      run.rounds.map Round.outcome = before ++ [last] ∧
      (∀ r ∈ run.rounds, r.reading = [.prompted settings.prompt]) ∧
      run.source.outcomes = script.outcomes.drop (before.length + 1) ∧
      (run.rounds.map fun r => (r.running.account, r.after.place)) =
        replay host t (before ++ [last]) s.place ∧
      run.rounds.getLast?.map Round.after = some run.state ∧
      run.events.dispatches = (before ++ [last]).filterMap (commandOf? t) ∧
      run.events.launches = run.events.dispatches.filter isProgram ∧
      run.events.output = (match run.ending with
        | .ok .exit => "Goodbye!\n"
        | _ => "") := by
  intro t run
  obtain ⟨hfollows, -, hsource⟩ := run_follows (.ofSettings host (Script.lines World) settings)
    (Script.follows settings.prompt) ⟨hp, Eq.refl script.outcomes⟩ hs
  obtain ⟨before, last, after, hsplit, hbefore, htaken⟩ := taken_split t script.outcomes
  have hf : run.Follows host t settings.prompt (before ++ [last]) s.place := htaken ▸ hfollows
  have hlast : endingOf? t last = some run.ending := by simpa using hf.ending_eq
  have hlength : run.rounds.length = before.length + 1 := by
    simpa using congrArg List.length hf.outcomes_eq
  refine ⟨before, last, after, hsplit, hbefore, hlast, hf.outcomes_eq, hf.readings_eq,
    hlength ▸ hsource, hf.effects_eq, hf.state_eq, hf.dispatches_eq, ?_, ?_⟩
  · rw [hf.dispatches_eq, List.filter_filterMap]
    exact hf.launches_eq
  · have hsaid : ∀ r ∈ run.rounds, r.events.output = farewellAt (endingOf? t r.outcome) := by
      intro r hr
      obtain ⟨q, hq⟩ := hf.account_of_mem hr
      exact (congrArg Account.output hq).trans (output_effectOf host t r.outcome q)
    rw [Run.events, output_events hsaid hf.outcomes_eq hbefore, hlast]
    cases run.ending with
    | error e => rfl
    | ok ending => cases ending <;> rfl

/-- A session that goes on after a failed launch and a `cd` without a directory, and that takes no
line behind its `exit`. Its world counts the programs that it was asked for. -/
theorem run_script_exit :
    let host : Host Unit Nat :=
      { chdir := fun world _ _ => (.error (.os 2), world)
        launch := fun world _ _ => (.error (.os 2), world + 1) }
    let outcomes : List (Except ShellError ReadOutcome) :=
      [.ok (.line "ls a\n"), .ok .interrupted, .ok (.line "cd"), .ok (.line "exit now\n"),
        .ok (.line "ls\n")]
    let s : State Unit Nat := ⟨(), 0, .healthy, .healthy⟩
    let run := run (.ofSettings host (Script.lines Nat) {}) ⟨.healthy, outcomes⟩ s
    Sink.healthy.IsHealthy ∧ s.IsHealthy ∧ run.rounds.map Round.outcome = outcomes.take 4 ∧
      (run.rounds.map fun r => (r.running.account, r.after.place.world)) =
        [({ dispatches := [⟨"ls", ["a"], false⟩], launches := [⟨"ls", ["a"], false⟩]
            reports := "krsh: exec: ls: No such file or directory (os error 2)\n" }, 1),
          ({}, 1),
          ({ dispatches := [⟨"cd", [], false⟩], reports := "krsh: cd: missing argument\n" }, 1),
          ({ dispatches := [⟨"exit", ["now"], false⟩], output := "Goodbye!\n" }, 1)] := by
  intro host outcomes s run
  have hp := Sink.isHealthy_healthy
  have hs : s.IsHealthy := ⟨hp, hp⟩
  obtain ⟨before, last, after, hsplit, hbefore, hlast, houtcomes, -, -, heffects, -⟩ :=
    run_script host {} ⟨.healthy, outcomes⟩ s hp hs
  have hcommands : Tokenizer.tokenize { maxArgs := 64, mode := .whitespace } "ls a\n" =
        some ⟨"ls", ["a"], false⟩ ∧
      Tokenizer.tokenize { maxArgs := 64, mode := .whitespace } "cd" = some ⟨"cd", [], false⟩ ∧
      Tokenizer.tokenize { maxArgs := 64, mode := .whitespace } "exit now\n" =
        some ⟨"exit", ["now"], false⟩ := by
    decide +kernel
  obtain ⟨hls, hcd, hexit⟩ := hcommands
  have hfour : before ++ [last] = outcomes.take 4 := by
    have hnone : ∀ o ∈ before,
        (endingOf? { maxArgs := 64, mode := .whitespace } o).isSome = false :=
      fun o h => by simp [hbefore o h]
    have hsome : (endingOf? { maxArgs := 64, mode := .whitespace } last).isSome = true := by
      rw [hlast]
      rfl
    rw [← upTo_append_of_first hnone hsome after, ← hsplit]
    simp [outcomes, upTo, endingOf?, isExit, hls, hcd, hexit]
  rw [hfour] at houtcomes heffects
  refine ⟨hp, hs, houtcomes, ?_⟩
  have hworlds := congrArg (List.map fun effect => (effect.1, effect.2.world)) heffects
  rw [List.map_map] at hworlds
  refine hworlds.trans ?_
  simp only [outcomes, List.take, replay, commandOf?, hls, hcd, hexit]
  rfl

end Session

end LineShell
