import LineShell.Completion
import LineShell.Highlight
import LineShell.Proofs.Entries
import LineShell.Proofs.Slices
import LineShell.Proofs.Tokens
import LineShell.Session

/-!
# No step is a mistake

The steps that a line, a settings file and the editor take are written once more here, with
operations that stop at once where they are misused: a token is read by its place, a slice by byte
positions, and a builtin out of a table. Each comes to what the step comes to that has no such
operation. So whatever the input is, none of them stops.
-/

namespace LineShell

/-! ## The tokens of a line -/

/-- The tokens kept of a line. Nothing keeps the list from being empty. -/
structure TokenList where
  tokens : List String
  truncated : Bool
  deriving DecidableEq, Repr

namespace TokenList

/-- The token at the first place. -/
def command (l : TokenList) : Checked String :=
  match l.tokens[0]? with
  | some token => .ok token
  | none => .error (.place 0 l.tokens.length)

/-- The tokens from the second place on. -/
def arguments (l : TokenList) : Checked (List String) :=
  if 1 ≤ l.tokens.length then .ok (l.tokens.drop 1) else .error (.place 1 l.tokens.length)

/-- The command and its arguments. -/
def vector (l : TokenList) : Checked ArgumentVector := do
  let command ← l.command
  let arguments ← l.arguments
  return { command, arguments, truncated := l.truncated }

/-- The tokens of a vector. -/
def ofVector (args : ArgumentVector) : TokenList := ⟨args.tokens, args.truncated⟩

theorem command_ofVector (args : ArgumentVector) : (ofVector args).command = .ok args.command := rfl

theorem vector_ofVector (args : ArgumentVector) : (ofVector args).vector = .ok args := rfl

/-- An empty list has neither. -/
example : command ⟨[], false⟩ = .error (.place 0 0) ∧ arguments ⟨[], false⟩ = .error (.place 1 0) :=
  ⟨rfl, rfl⟩

end TokenList

/-- The tokens kept of a line that is not blank. Whether there are any is not asked again. -/
def Tokenizer.collect (t : Tokenizer) (line : String) : Option TokenList :=
  let body := lineBody line.toList
  if Text.isAllBlank body then none
  else
    let words := t.words body
    some ⟨words.take t.capacity, decide (t.capacity < words.length)⟩

/-- The tokens kept of a line are those of a vector. -/
theorem Tokenizer.collect_eq (t : Tokenizer) (line : String) :
    t.collect line = (t.tokenize line).map TokenList.ofVector := by
  cases h : t.tokenize line with
  | none => simp [collect, tokenize_eq_none_iff.1 h]
  | some args =>
    obtain ⟨hblank, htokens, htruncated⟩ := tokenize_eq_some_iff.1 h
    simp [collect, hblank, TokenList.ofVector, htokens, htruncated]

/-! ## The command of a line -/

/-- The builtins under their names. -/
def Builtin.table : List (String × Builtin) := Builtin.all.map fun b => (b.name, b)

theorem Builtin.lookup_table (command : String) : table.lookup command = ofName? command := by
  by_cases hcd : command = "cd"
  · subst hcd
    rfl
  · by_cases hexit : command = "exit"
    · subst hexit
      rfl
    · have hnone : ofName? command = none := by
        unfold ofName?
        split <;> simp_all
      simp [hnone, table, all, name, List.lookup_cons, beq_false_of_ne hcd, beq_false_of_ne hexit]

/-- The table has the names that something is found under. -/
theorem Builtin.any_table (command : String) :
    (table.any fun entry => entry.1 == command) = (ofName? command).isSome := by
  rw [← lookup_table, Bool.eq_iff_iff, List.lookup_isSome_iff, List.any_eq_true]
  simp only [beq_iff_eq, @eq_comm _ command]

namespace Session

variable {Dir World : Type}

/-- Runs a command inside the shell or as a program. The table is asked twice: whether it has a
name, and what stands there. -/
def performChecked (host : Host Dir World) (l : TokenList) (s : State Dir World) :
    Checked (Step Dir World (Except IoError Flow)) := do
  let command ← l.command
  let args ← l.vector
  if Builtin.table.any fun entry => entry.1 == command then
    match Builtin.table.lookup command with
    | none => throw (.unreachable (Builtin.misuse command))
    | some b =>
      let step := b.run host args s
      return settle ⟨step.events, step.state, step.result.mapError .command⟩
  else
    return external host args s

/-- Runs the command of a line. -/
def dispatchChecked (host : Host Dir World) (l : TokenList) (s : State Dir World) :
    Checked (Step Dir World (Except IoError Flow)) := do
  let args ← l.vector
  let step ← performChecked host l s
  return { step with events := announce args ++ step.events }

/-- Runs a line. -/
def executeLineChecked (host : Host Dir World) (t : Tokenizer) (line : String)
    (s : State Dir World) : Checked (Step Dir World (Except IoError Flow)) :=
  match t.collect line with
  | none => return ⟨[], s, .ok .proceed⟩
  | some l => dispatchChecked host l s

theorem performChecked_eq (host : Host Dir World) (args : ArgumentVector) (s : State Dir World) :
    performChecked host (.ofVector args) s = .ok (perform host args s) := by
  simp only [performChecked, perform, TokenList.command_ofVector, TokenList.vector_ofVector,
    Checked.ok_bind, Builtin.any_table, Builtin.lookup_table]
  cases Builtin.ofName? args.command with
  | none => rfl
  | some b => rfl

theorem executeLineChecked_eq (host : Host Dir World) (t : Tokenizer) (line : String)
    (s : State Dir World) :
    executeLineChecked host t line s = .ok (executeLine host t line s) := by
  rw [executeLineChecked, executeLine_eq]
  rw [t.collect_eq]
  cases t.tokenize line with
  | none => rfl
  | some args =>
    simp only [Option.map_some, dispatchChecked, TokenList.vector_ofVector, performChecked_eq]
    rfl

end Session

/-! ## A line of a settings file -/

namespace SettingsFile

/-- A value without the pair of quotes around it, if there is one: the slice between them. -/
def unquoteChecked (value : List Char) : Checked (List Char) :=
  if IsQuoted value then do
    let stop ← checkedSub (Text.byteLength value) 1
    Text.slice 1 stop value
  else return value

/-- The quotes take one byte each, so that what is between them begins and ends between
characters. -/
theorem unquoteChecked_eq (value : List Char) : unquoteChecked value = .ok (unquote value) := by
  unfold unquoteChecked
  split
  · next h =>
    obtain ⟨inner, rfl⟩ := isQuoted_iff.1 h
    have hsize : '"'.utf8Size = 1 := by decide
    have hlength : Text.byteLength ('"' :: (inner ++ ['"'])) =
        Text.byteLength (['"'] ++ inner) + 1 := by
      simp only [List.singleton_append, Text.byteLength_cons, Text.byteLength_append,
        Text.byteLength_nil, hsize]
      omega
    rw [hlength, checkedSub_add, Checked.ok_bind, unquote_quoted]
    exact Text.slice_append ['"'] inner ['"']
  · next h =>
    rw [unquote_eq, if_neg h]
    rfl

/-- What a line asks for. -/
def Entry.ofLineChecked (line : List Char) : Checked Entry :=
  let text := Text.trim line
  match text with
  | [] => return .nothing
  | '#' :: _ => return .nothing
  | _ =>
    match text.span (· != '=') with
    | (_, []) => return .malformed
    | (key, _ :: value) => do
      let value ← unquoteChecked (Text.trim value)
      return .setting (Text.trim key) value

theorem Entry.ofLineChecked_eq (line : List Char) : ofLineChecked line = .ok (ofLine line) := by
  unfold ofLineChecked ofLine
  generalize Text.trim line = text
  simp only [unquoteChecked_eq, Checked.ok_bind, Checked.pure_eq]
  cases text with
  | nil => rfl
  | cons c rest =>
    by_cases hc : c = '#'
    · subst hc
      rfl
    · generalize List.span (· != '=') (c :: rest) = parts
      obtain ⟨key, _ | ⟨mark, value⟩⟩ := parts <;> simp [hc]

end SettingsFile

/-! ## A line with colours -/

namespace Highlight

/-- The pieces of a line, each of them up to a blank. -/
def pieces : List Char → List (List Char)
  | [] => []
  | c :: cs =>
    if Text.isBlank c then [c] :: pieces cs
    else
      match pieces cs with
      | [] => [[c]]
      | piece :: rest => (c :: piece) :: rest

/-- Paints the word of each piece and keeps what stands behind it. -/
def paintPieces (commandSeen : Bool) : List (List Char) → Checked (List Char)
  | [] => return []
  | piece :: rest => do
    let word := Text.trimEnd piece
    let gap ← Text.sliceFrom (Text.byteLength word) piece
    let painted ← paintPieces (commandSeen || !word.isEmpty) rest
    return paintWord commandSeen word ++ gap ++ painted

/-- A line, with colours if they are on. -/
def lineChecked (colours : Bool) (text : String) : Checked String :=
  if colours then return String.ofList (← paintPieces false (pieces text.toList)) else return text

theorem pieces_word {word : List Char} (hne : word ≠ []) (hw : ∀ c ∈ word, Text.isBlank c = false) :
    pieces word = [word] := by
  induction word with
  | nil => exact absurd rfl hne
  | cons c word ih =>
    have hc := hw c (by simp)
    by_cases hword : word = []
    · subst hword
      simp [pieces, hc]
    · simp [pieces, hc, ih hword fun d hd => hw d (by simp [hd])]

theorem trimEnd_word {word : List Char} (hw : ∀ c ∈ word, Text.isBlank c = false) :
    Text.trimEnd word = word := by
  rw [Text.trimEnd, Text.trimStart_of_head fun c hc => hw c ?_, List.reverse_reverse]
  exact List.mem_reverse.1 (List.mem_of_mem_head? hc)

/-- A piece goes to the first blank behind its word. -/
theorem pieces_word_append {word : List Char} (hw : ∀ c ∈ word, Text.isBlank c = false) {c : Char}
    (hc : Text.isBlank c = true) (cs : List Char) :
    pieces (word ++ c :: cs) = (word ++ [c]) :: pieces cs := by
  induction word with
  | nil => simp [pieces, hc]
  | cons d word ih => simp [pieces, hw d (by simp), ih fun e he => hw e (by simp [he])]

/-- What is painted piece by piece is what is painted character by character, whatever of the first
word has been read before. -/
theorem paintPieces_eq (commandSeen : Bool) {word : List Char}
    (hw : ∀ c ∈ word, Text.isBlank c = false) (cs : List Char) :
    paintPieces commandSeen (pieces (word ++ cs)) =
      .ok (paintFrom commandSeen word.reverse cs) := by
  induction cs generalizing commandSeen word with
  | nil =>
    rw [List.append_nil, paintFrom, List.reverse_reverse]
    by_cases hne : word = []
    · subst hne
      rfl
    · have hgap : Text.sliceFrom (Text.byteLength word) word = .ok [] := by
        simpa using Text.sliceFrom_append word []
      simp [pieces_word hne hw, paintPieces, trimEnd_word hw, hgap]
  | cons c cs ih =>
    cases hc : Text.isBlank c with
    | true =>
      have hpiece : Text.trimEnd (word ++ [c]) = word := by
        rw [Text.trimEnd_append_gap (by simpa using hc), trimEnd_word hw]
      have hrest := @ih (commandSeen || !word.isEmpty) [] (by simp)
      rw [List.nil_append, List.reverse_nil] at hrest
      rw [pieces_word_append hw hc, paintPieces, hpiece, Text.sliceFrom_append, Checked.ok_bind,
        hrest, Checked.ok_bind, paintFrom, if_pos hc]
      simp
    | false =>
      -- The character belongs to the word that has been read so far.
      have hword : ∀ d ∈ word ++ [c], Text.isBlank d = false := by
        intro d hd
        rcases List.mem_append.1 hd with hd | hd
        · exact hw d hd
        · rwa [List.mem_singleton.1 hd]
      have hrest := ih commandSeen hword
      rw [List.append_assoc, List.singleton_append] at hrest
      rw [hrest, paintFrom, if_neg (by simp [hc]), List.reverse_append]
      rfl

theorem lineChecked_eq (colours : Bool) (text : String) :
    lineChecked colours text = .ok (line colours text) := by
  cases colours with
  | false => rfl
  | true =>
    have hpaint := @paintPieces_eq false [] (by simp) text.toList
    rw [List.nil_append] at hpaint
    simp only [lineChecked, ↓reduceIte, hpaint]
    rfl

end Highlight

/-! ## A line from the editor -/

namespace Text

/-- The last boundary of a text that is not behind a byte position: positions are tried one after
the other, down to it. -/
def boundaryBelow (cs : List Char) : (position : Nat) → Checked Nat
  | 0 => if isBoundary cs 0 then return 0 else throw .belowZero
  | position + 1 =>
    if isBoundary cs (position + 1) then return position + 1 else boundaryBelow cs position

/-- A text, or what of it is before the last boundary that the room reaches. -/
def cutChecked (room : Nat) (cs : List Char) : Checked (List Char) :=
  if byteLength cs ≤ room then return cs
  else do
    let stop ← boundaryBelow cs room
    slice 0 stop cs

/-- A beginning of a text is what fits into its own length. -/
theorem fitting_append (xs ys : List Char) : fitting (byteLength xs) (xs ++ ys) = xs := by
  induction xs with
  | nil =>
    cases ys with
    | nil => rfl
    | cons c ys =>
      have hpos := c.utf8Size_pos
      simp [fitting, Nat.ne_of_gt hpos]
  | cons c xs ih => simp [fitting, ih]

/-- One byte more of room does not matter if what fits does not need it. -/
theorem fitting_succ {room : Nat} {cs : List Char} (h : byteLength (fitting (room + 1) cs) ≤ room) :
    fitting (room + 1) cs = fitting room cs := by
  induction cs generalizing room with
  | nil => simp [fitting]
  | cons c cs ih =>
    by_cases hfits : c.utf8Size ≤ room + 1
    · rw [fitting, if_pos hfits, byteLength_cons] at h
      have hroom : room + 1 - c.utf8Size = room - c.utf8Size + 1 := by omega
      rw [hroom] at h
      rw [fitting, if_pos hfits, hroom, ih (by omega), fitting, if_pos (by omega)]
    · rw [fitting, if_neg hfits, fitting, if_neg (by omega)]

/-- Going down ends where what fits ends, at the latest at 0. -/
theorem boundaryBelow_eq (cs : List Char) (position : Nat) :
    boundaryBelow cs position = .ok (byteLength (fitting position cs)) := by
  induction position with
  | zero =>
    have hnone : byteLength (fitting 0 cs) = 0 := Nat.le_zero.1 (byteLength_fitting_le 0 cs)
    rw [boundaryBelow, isBoundary_zero, hnone]
    rfl
  | succ position ih =>
    rw [boundaryBelow]
    split
    · next h =>
      obtain ⟨before, after, rfl, hbefore⟩ := isBoundary_iff.1 h
      rw [← hbefore, fitting_append]
      rfl
    · next h =>
      have hle := byteLength_fitting_le (position + 1) cs
      obtain ⟨rest, hrest⟩ := fitting_prefix (position + 1) cs
      have hne : byteLength (fitting (position + 1) cs) ≠ position + 1 := fun he =>
        h (isBoundary_iff.2 ⟨_, rest, hrest.symm, he⟩)
      rw [ih, fitting_succ (by omega)]

theorem cutChecked_eq (room : Nat) (cs : List Char) :
    cutChecked room cs = .ok (fitting room cs) := by
  unfold cutChecked
  split
  · next h =>
    rw [fitting_of_byteLength_le h]
    rfl
  · next h =>
    obtain ⟨rest, hrest⟩ := fitting_prefix room cs
    rw [boundaryBelow_eq, Checked.ok_bind]
    have hslice := slice_prefix (fitting room cs) rest
    rwa [hrest] at hslice

end Text

/-! ## A completion -/

namespace Completion

/-- Completes a line at a byte position. The word before it is the slice from the first byte that is
no leading blank. -/
def completeChecked (names : List String) (line : String) (position : Nat) :
    Checked Completion := do
  let before ← Text.slice 0 position line.toList
  let start ← checkedSub (Text.byteLength before) (Text.byteLength (Text.trimStart before))
  let word ← Text.sliceFrom start before
  if word.any Text.isBlank then return { start := position, candidates := [] }
  else return { start, candidates := startingWith names word }

/-- At a position where the line may be cut, completion comes to what it comes to; at any other, the
first slice is a mistake. -/
theorem completeChecked_eq (names : List String) (line : String) (position : Nat) :
    completeChecked names line position =
      match complete names line position with
      | some c => .ok c
      | none => .error (.slice 0 position) := by
  unfold completeChecked complete
  cases h : Text.splitAtByte? position line.toList with
  | none =>
    have hb : Text.isBoundary line.toList position = false := by
      rw [← Text.isSome_splitAtByte?, h]
      rfl
    simp only [Text.slice, hb, Bool.and_false, Bool.false_eq_true, ↓reduceIte, Option.map_none]
    rfl
  | some parts =>
    obtain ⟨before, after⟩ := parts
    obtain ⟨hline, rfl⟩ := Text.splitAtByte?_eq_some h
    have hparts : before.takeWhile Text.isBlank ++ Text.trimStart before = before :=
      List.takeWhile_append_dropWhile
    have hlength : Text.byteLength before =
        Text.byteLength (before.takeWhile Text.isBlank) +
          Text.byteLength (Text.trimStart before) := by
      rw [← Text.byteLength_append, hparts]
    have hword := Text.sliceFrom_append (before.takeWhile Text.isBlank) (Text.trimStart before)
    rw [hparts] at hword
    rw [hline, Text.slice_prefix, Checked.ok_bind]
    have hstart : checkedSub (Text.byteLength before) (Text.byteLength (Text.trimStart before)) =
        .ok (Text.byteLength (before.takeWhile Text.isBlank)) := by
      rw [hlength, checkedSub_add]
    rw [hstart, Checked.ok_bind, hword, Checked.ok_bind]
    simp only [Checked.pure_eq, Option.map_some, hlength, Nat.add_sub_cancel_right]
    split <;> rfl

end Completion

/-- No step of the interpreter stops at a mistake. Whatever a line holds and however it is split,
its command and its arguments are there to be read, and a command that is taken for a builtin is
one. The quotes of a value, the gap behind a word, and the end of a line that is cut are between
characters, and the search for that end does not go below 0. Completion slices well wherever the
line may be cut, and that is where it has an answer. -/
theorem no_step_panics {Dir World : Type} :
    (∀ (host : Host Dir World) (t : Tokenizer) (line : String) (s : State Dir World),
      Session.executeLineChecked host t line s = .ok (Session.executeLine host t line s)) ∧
    (∀ line, SettingsFile.Entry.ofLineChecked line = .ok (SettingsFile.Entry.ofLine line)) ∧
    (∀ colours text, Highlight.lineChecked colours text = .ok (Highlight.line colours text)) ∧
    (∀ room text, Text.cutChecked room text = .ok (cutLine (room + 1) text).2) ∧
    ∀ names line position,
      (Completion.completeChecked names line position =
        match Completion.complete names line position with
        | some c => .ok c
        | none => .error (.slice 0 position)) ∧
      (Completion.complete names line position).isSome = Text.isBoundary line.toList position := by
  refine ⟨Session.executeLineChecked_eq, SettingsFile.Entry.ofLineChecked_eq,
    Highlight.lineChecked_eq, fun room text => ?_, fun names line position => ⟨?_, ?_⟩⟩
  · rw [Text.cutChecked_eq, cutLine, Nat.add_sub_cancel]
    split
    · next hfits => rw [Text.fitting_of_byteLength_le hfits]
    · rfl
  · exact Completion.completeChecked_eq names line position
  · rw [Completion.complete, Option.isSome_map, Text.isSome_splitAtByte?]

end LineShell
