import LineShell.Proofs.Courses
import LineShell.Proofs.InputLines

/-!
# Reports

A session says nothing to its operator but why its commands failed. A report names words of a line,
and no word of a line has a newline in it, whatever the bytes of the input: so each failure takes
exactly one line.
-/

namespace LineShell

/-! ## Texts within one line -/

/-- A text without a newline. -/
def IsInline (text : String) : Prop := '\n' ∉ text.toList

/-- The characters of a literal decide, without its bytes. -/
theorem isInline_ofList {cs : List Char} (h : '\n' ∉ cs) : IsInline (String.ofList cs) := by
  rwa [IsInline, String.toList_ofList]

theorem IsInline.append {a b : String} (ha : IsInline a) (hb : IsInline b) : IsInline (a ++ b) := by
  simpa [IsInline] using ⟨ha, hb⟩

theorem isInline_repr_nat (n : Nat) : IsInline n.repr := by
  intro h
  have hmem : '\n' ∈ Nat.toDigits 10 n := by simpa using h
  exact absurd (Nat.isDigit_of_mem_toDigits (by decide) (by decide) hmem) (by decide)

theorem isInline_toString_int (n : Int) : IsInline (toString n) := by
  cases n with
  | ofNat n => exact isInline_repr_nat n
  | negSucc n => exact (isInline_ofList (by decide)).append (isInline_repr_nat (n + 1))

theorem Errno.isInline_of_mem_texts : ∀ entry ∈ texts, IsInline entry.2 := by
  unfold texts
  repeat refine List.forall_mem_cons.2 ⟨isInline_ofList (by decide), ?_⟩
  exact nofun

theorem Errno.isInline_text (code : Int) : IsInline (text code) := by
  unfold text
  cases h : texts.lookup code with
  | none => exact (isInline_ofList (by decide)).append (isInline_toString_int code)
  | some known =>
    obtain ⟨before, after, hsplit, -⟩ := List.lookup_eq_some_iff.1 h
    exact isInline_of_mem_texts (code, known) (by simp [hsplit])

/-- The system says why in one line. -/
theorem IoError.isInline_message (cause : IoError) : IsInline cause.message := by
  cases cause with
  | os code =>
    exact (((Errno.isInline_text code).append (isInline_ofList (by decide))).append
      (isInline_toString_int code)).append (isInline_ofList (by decide))
  | invalidUtf8 => exact isInline_ofList (by decide)
  | nulInPath => exact isInline_ofList (by decide)
  | nulInArgument => exact isInline_ofList (by decide)

theorem ProcessError.isInline_ofLaunch {program : String} (h : IsInline program)
    (cause : IoError) : IsInline (ofLaunch program cause).message := by
  unfold ofLaunch
  split
  · exact (isInline_ofList (by decide)).append cause.isInline_message
  · exact (((isInline_ofList (by decide)).append h).append (isInline_ofList (by decide))).append
      cause.isInline_message

/-! ## Words of a piece -/

theorem Text.mem_of_mem_words {separates : Char → Bool} {cs word : List Char} {c : Char}
    (hw : word ∈ words separates cs) (hc : c ∈ word) : c ∈ cs := by
  rw [words_eq_of] at hw
  obtain ⟨part, hp, rfl⟩ := List.mem_map.1 hw
  rw [← Spacing.text_of separates cs]
  exact List.mem_append_right _ (List.mem_flatMap.2 ⟨part, hp, List.mem_append_left _ hc⟩)

/-- A piece ends with its newline if it has one, and a line loses the newline that it ends with. -/
theorem newline_not_mem_lineBody {piece : List UInt8} (h : newline ∉ piece.dropLast) :
    '\n' ∉ lineBody (chunkLine piece).toList := by
  by_cases hnl : newline ∈ piece
  · obtain ⟨last, hlast⟩ : ∃ last, piece = piece.dropLast ++ [last] :=
      ⟨piece.getLast (List.ne_nil_of_mem hnl), (List.dropLast_concat_getLast _).symm⟩
    obtain rfl : newline = last := by
      rw [hlast] at hnl
      simpa [h] using hnl
    rw [hlast, toList_chunkLine, Text.Utf8.decodeLossy_append_newline, Text.Utf8.decodeLossy_nil,
      lineBody_append_newline]
    exact fun hm => h (Text.Utf8.newline_mem_decodeLossy.1 hm)
  · rw [lineBody_chunkLine hnl]
    exact fun hm => hnl (Text.Utf8.newline_mem_decodeLossy.1 hm)

/-- No token of a piece has a newline in it, in either mode. -/
theorem Tokenizer.isInline_token {t : Tokenizer} {piece : List UInt8} {args : ArgumentVector}
    (hnl : newline ∉ piece.dropLast) (h : t.tokenize (chunkLine piece) = some args) :
    ∀ token ∈ args.tokens, IsInline token := by
  intro token hm hc
  rw [(tokenize_eq_some_iff.1 h).2.1] at hm
  obtain ⟨word, hw, rfl⟩ := List.mem_map.1 (List.mem_of_mem_take hm)
  rw [String.toList_ofList] at hc
  exact newline_not_mem_lineBody hnl (Text.mem_of_mem_words hw hc)

namespace Session

variable {Dir World : Type} {host : Host Dir World}

/-! ## Failures -/

/-- What is said of a failure names tokens of the command and what the system says. -/
theorem Fails.isInline_message {args : ArgumentVector} {p : Place Dir World} {e : ShellError}
    (h : Fails host args p e) (htokens : ∀ token ∈ args.tokens, IsInline token) :
    IsInline e.message := by
  cases h with
  | missing hcommand hnone =>
    exact (isInline_ofList (by decide)).append (isInline_ofList (by decide))
  | refused path cause hcommand hpath hchdir =>
    have hinline : IsInline path := htokens path (List.mem_of_getElem? hpath)
    exact (((isInline_ofList (by decide)).append hinline).append
      (isInline_ofList (by decide))).append cause.isInline_message
  | unlaunched cause hprogram hlaunch =>
    exact ProcessError.isInline_ofLaunch (htokens args.command (by simp [ArgumentVector.tokens]))
      cause
  | lost child cause hprogram hlaunch hwait =>
    exact (isInline_ofList (by decide)).append cause.isInline_message

/-- The errors of the commands that fail, where each command starts from the place that the one
before it left. -/
def failures (host : Host Dir World) : List ArgumentVector → Place Dir World → List ShellError
  | [], _ => []
  | args :: rest, p =>
    (comesTo host args p).1.toList ++ failures host rest (comesTo host args p).2

theorem fails_of_mem_failures {commands : List ArgumentVector} {p : Place Dir World}
    {e : ShellError} (h : e ∈ failures host commands p) :
    ∃ args ∈ commands, ∃ q, Fails host args q e := by
  induction commands generalizing p with
  | nil => simp [failures] at h
  | cons args commands ih =>
    rw [failures] at h
    rcases List.mem_append.1 h with h | h
    · exact ⟨args, by simp, p, comesTo_eq_some_iff.1 (Option.mem_toList.1 h)⟩
    · obtain ⟨args', hm, q, hq⟩ := ih h
      exact ⟨args', by simp [hm], q, hq⟩

/-- The reports of some errors. -/
def reportsOf (errors : List ShellError) : String := String.join (errors.map ShellError.report)

theorem reportsOf_append (a b : List ShellError) :
    reportsOf (a ++ b) = reportsOf a ++ reportsOf b := by
  simp [reportsOf]

theorem reportsOf_toList (e? : Option ShellError) : reportsOf e?.toList = complaint e? := by
  cases e? <;> simp [reportsOf, complaint]

/-- Errors that each say why in one line take as many lines as there are of them. -/
theorem count_reportsOf {errors : List ShellError} (h : ∀ e ∈ errors, IsInline e.message) :
    (reportsOf errors).toList.count '\n' = errors.length := by
  induction errors with
  | nil => rfl
  | cons e errors ih =>
    have hreport : e.report.toList.count '\n' = 1 := by
      have hmessage : e.message.toList.count '\n' = 0 := List.count_eq_zero.2 (h e (by simp))
      have hname : shellName.toList.count '\n' = 0 := by decide
      simp [ShellError.report, hmessage, hname]
    have hrest := ih fun q hq => h q (by simp [hq])
    simp only [reportsOf, List.map_cons, String.join_cons, String.toList_append,
      List.count_append, List.length_cons] at hrest ⊢
    omega

/-! ## Sessions -/

/-- Commands are dispatched up to the first `exit`, and what is reported of them is their failures.
-/
theorem carryOut_reports (host : Host Dir World) (commands : List ArgumentVector)
    {s : State Dir World} (hs : s.IsHealthy) :
    (carryOut host commands s).events.dispatches = upTo isExit commands ∧
      (carryOut host commands s).events.reports =
        reportsOf (failures host (upTo isExit commands) s.place) := by
  induction commands generalizing s with
  | nil => exact ⟨rfl, rfl⟩
  | cons args commands ih =>
    obtain ⟨haccount, hplace, hs', hresult⟩ := dispatch_does host args hs
    have hdispatches : (dispatch host args s).events.dispatches = [args] :=
      congrArg Account.dispatches haccount
    have hreports : (dispatch host args s).events.reports =
        reportsOf (comesTo host args s.place).1.toList := by
      rw [reportsOf_toList]
      exact congrArg Account.reports haccount
    rw [carryOut]
    cases he : isExit args with
    | true =>
      rw [he] at hresult
      have hend : endingAfter (dispatch host args s).result = some (.ok .exit) :=
        congrArg endingAfter hresult
      rw [upTo_cons_of_true he, failures, failures, List.append_nil]
      simp only [hend]
      exact ⟨hdispatches, hreports⟩
    | false =>
      rw [he] at hresult
      have hend : endingAfter (dispatch host args s).result = none :=
        congrArg endingAfter hresult
      obtain ⟨hrest, hlater⟩ := ih hs'
      rw [hplace] at hlater
      rw [upTo_cons_of_false he, failures, reportsOf_append]
      simp only [hend]
      rw [Trace.dispatches_append, hdispatches, hrest, Trace.reports_append, hreports, hlater]
      exact ⟨rfl, rfl⟩

/-- What a session over bytes dispatches, and what it reports. -/
theorem overBytes_reports (host : Host Dir World) (settings : Settings) (bytes : List UInt8)
    {prompts : Sink} (hp : prompts.IsHealthy) {s : State Dir World} (hs : s.IsHealthy) :
    let t : Tokenizer := { maxArgs := settings.maxArgs, mode := settings.split }
    let run := overBytes host settings prompts bytes s
    run.events.dispatches =
        upTo isExit (((piecesOf settings bytes).map chunkLine).filterMap t.tokenize) ∧
      run.events.reports = reportsOf (failures host run.events.dispatches s.place) := by
  intro t run
  obtain ⟨hcourse, -⟩ := overBytes_course host settings hp bytes s
  have haccount : run.events.account = run.course.running.account :=
    account_of_course hcourse (Trace.account_prompted _ _)
  have hcarry := course_eq_carryOut host t [.prompted settings.prompt]
    ((piecesOf settings bytes).map chunkLine) s
  have hrunning : run.course.running = (carryOut host
      (((piecesOf settings bytes).map chunkLine).filterMap t.tokenize) s).events := by
    rw [hcourse, ← hcarry]
    rfl
  obtain ⟨hdispatches, hreports⟩ := carryOut_reports host
    (((piecesOf settings bytes).map chunkLine).filterMap t.tokenize) hs
  rw [← hrunning] at hdispatches hreports
  have hd : run.events.dispatches = run.course.running.dispatches :=
    congrArg Account.dispatches haccount
  have hr : run.events.reports = run.course.running.reports := congrArg Account.reports haccount
  rw [hd, hr, hreports, hdispatches]
  exact ⟨rfl, rfl⟩

/-- A session over bytes reports each failure of a command it dispatched in one line, in order, and
says nothing else to its operator, whatever the bytes are. -/
theorem reports_of_failures (host : Host Dir World) (settings : Settings) (bytes : List UInt8)
    (prompts : Sink) (hp : prompts.IsHealthy) (s : State Dir World) (hs : s.IsHealthy) :
    let run := overBytes host settings prompts bytes s
    let failed := failures host run.events.dispatches s.place
    (∀ args p e, (comesTo host args p).1 = some e ↔ Fails host args p e) ∧
      (∀ args ∈ run.events.dispatches, ∀ token ∈ args.tokens, '\n' ∉ token.toList) ∧
      run.events.reports = String.join (failed.map fun e => "krsh: " ++ e.message ++ "\n") ∧
      (∀ e ∈ failed, '\n' ∉ e.message.toList) ∧
      run.events.reports.toList.count '\n' = failed.length := by
  intro run failed
  obtain ⟨hdispatches, hreports⟩ := overBytes_reports host settings bytes hp hs
  have htokens : ∀ args ∈ run.events.dispatches, ∀ token ∈ args.tokens, IsInline token := by
    intro args hm
    rw [hdispatches] at hm
    obtain ⟨text, htext, htokenize⟩ := List.mem_filterMap.1 (mem_of_mem_upTo hm)
    obtain ⟨piece, hpiece, rfl⟩ := List.mem_map.1 htext
    have hcut := isGreedyCut_chunks (chunkLimit_pos settings.maxLine) bytes
    exact Tokenizer.isInline_token (hcut.newline_last piece hpiece) htokenize
  have hinline : ∀ e ∈ failed, IsInline e.message := by
    intro e hm
    obtain ⟨args, hargs, p, hfails⟩ := fails_of_mem_failures hm
    exact hfails.isInline_message (htokens args hargs)
  refine ⟨fun args p e => comesTo_eq_some_iff, htokens, hreports, hinline, ?_⟩
  rw [hreports]
  exact count_reportsOf hinline

/-- A `cd` to a name of a carriage return, a NUL and a byte that is no text, a blank line, a program
whose name ends with a tab, and a `cd` to nowhere: three failures, and three lines. -/
theorem reports_of_failures_three :
    let host : Host Unit Unit :=
      { chdir := fun _ _ _ => (.error (.os 2), ()), launch := fun _ _ _ => (.error (.os 13), ()) }
    let bytes : List UInt8 := [99, 100, 32, 13, 0, 255, 10, 10, 120, 9, 10, 99, 100]
    let s : State Unit Unit := ⟨(), (), .healthy, .healthy⟩
    let run := overBytes host { split := .space } .healthy bytes s
    Sink.healthy.IsHealthy ∧ s.IsHealthy ∧
      run.events.reports =
        "krsh: cd: \r\x00\uFFFD: No such file or directory (os error 2)\n" ++
          "krsh: exec: x\t: Permission denied (os error 13)\n" ++ "krsh: cd: missing argument\n" ∧
      run.events.reports.toList.count '\n' = 3 := by
  intro host bytes s run
  have hp := Sink.isHealthy_healthy
  have hs : s.IsHealthy := ⟨hp, hp⟩
  obtain ⟨-, -, hreports, -, hcount⟩ :=
    reports_of_failures host { split := .space } bytes .healthy hp s hs
  have hdispatches : run.events.dispatches =
      [⟨"cd", ["\r\x00\uFFFD"], false⟩, ⟨"x\t", [], false⟩, ⟨"cd", [], false⟩] := by
    refine (overBytes_reports host { split := .space } bytes hp hs).1.trans ?_
    decide +kernel
  rw [hdispatches] at hreports hcount
  exact ⟨hp, hs, hreports.trans rfl, hcount.trans rfl⟩

end Session

end LineShell
