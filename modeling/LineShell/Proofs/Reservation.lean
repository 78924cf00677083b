import LineShell.Proofs.Commands
import LineShell.Text.Fit

/-!
# Room for the tokens of a line

Tokenizing is written once more here, with a vector that has room for so many tokens and asks for
more only when it is full. The room that is set aside from the length of a line, before its words
are counted, is enough for what is kept of them: between two words there is a byte. So the vector
asks once. A session reports a line for which memory is refused, and goes on.
-/

namespace LineShell

namespace Text

/-! ## Words and bytes -/

variable {separates : Char → Bool}

theorem byteLength_pos {cs : List Char} (h : cs ≠ []) : 1 ≤ byteLength cs := by
  cases cs with
  | nil => exact absurd rfl h
  | cons c cs => exact Nat.le_trans c.utf8Size_pos (Nat.le_add_right _ _)

/-- Each word but the last has a byte of its own and one behind it. -/
theorem Spacing.Fits.two_mul_length_words_le {s : Spacing} (h : s.Fits separates) :
    2 * s.words.length ≤ byteLength s.text + 1 := by
  obtain ⟨lead, parts⟩ := s
  induction parts generalizing lead with
  | nil => simp [Spacing.words]
  | cons part parts ih =>
    have hrest := ih [] h.tail
    have hword := byteLength_pos (h.nonempty part (by simp))
    simp only [Spacing.words, Spacing.text, List.length_map, List.length_cons, List.flatMap_cons,
      List.nil_append, byteLength_append] at hrest ⊢
    by_cases hp : parts = []
    · subst hp
      simp only [List.length_nil]
      omega
    · have hgap := byteLength_pos (h.gap_ne_nil hp)
      omega

/-- A text has at most one word for two bytes, an odd byte counted as two. -/
theorem length_words_le (separates : Char → Bool) (cs : List Char) :
    (words separates cs).length ≤ (byteLength cs + 1) / 2 := by
  have h := (Spacing.fits_of separates cs).two_mul_length_words_le
  rw [Spacing.text_of, ← words_eq_of] at h
  omega

theorem utf8ByteSize_ofList (cs : List Char) : (String.ofList cs).utf8ByteSize = byteLength cs := by
  induction cs with
  | nil => rfl
  | cons c cs ih => simp [String.ofList_cons, ih]

end Text

/-! ## Memory -/

/-- Where memory comes from. For some slots it gives room for at least so many, or refuses; the
bytes of the token for a place it gives or refuses. -/
structure Allocator where
  slots : (need : Nat) → Option Nat
  enough : ∀ {need room : Nat}, slots need = some room → need ≤ room
  bytes : (place size : Nat) → Bool

/-- What memory was refused for. -/
inductive Refusal where
  | slots (need : Nat)
  | bytes (size : Nat)
  deriving DecidableEq, Repr

/-- Steps that may be refused memory. What was asked for in slots is noted, in order, granted or
not. -/
abbrev Allocating := ExceptT Refusal (StateM (List Nat))

namespace Allocator

/-- Asks for slots. -/
def grant (a : Allocator) (need : Nat) : Allocating Nat := do
  modify (· ++ [need])
  match a.slots need with
  | none => throw (.slots need)
  | some room => return room

/-- A copy of a word, for a place. -/
def copy (a : Allocator) (place : Nat) (word : String) : Allocating String :=
  if a.bytes place word.utf8ByteSize then return word else throw (.bytes word.utf8ByteSize)

end Allocator

/-- The tokens of a vector, and the room that it has for tokens. -/
structure TokenBuffer where
  tokens : List String
  room : Nat
  deriving DecidableEq, Repr

namespace TokenBuffer

/-- Sees to it that there is room for more tokens. Only a vector without that room asks for it. -/
def reserve (a : Allocator) (more : Nat) (b : TokenBuffer) : Allocating TokenBuffer :=
  if more ≤ b.room - b.tokens.length then return b
  else return { b with room := ← a.grant (b.tokens.length + more) }

/-- The vector with one more token. -/
def push (b : TokenBuffer) (token : String) : TokenBuffer :=
  { b with tokens := b.tokens ++ [token] }

/-- Collects words up to a limit, each after seeing to it that there is room for it, and tells which
words are left over. -/
def collect (a : Allocator) (limit : Nat) (b : TokenBuffer) :
    List String → Allocating (TokenBuffer × List String)
  | [] => return (b, [])
  | word :: rest =>
    if b.tokens.length < limit then do
      let roomy ← b.reserve a 1
      let token ← a.copy b.tokens.length word
      collect a limit (roomy.push token) rest
    else return (b, word :: rest)

end TokenBuffer

/-- Tokenizes a line: the tokens kept of it in a vector, and whether there are more words; `none`
for a blank line. -/
def Tokenizer.gather (a : Allocator) (t : Tokenizer) (line : String) :
    Allocating (Option (TokenBuffer × Bool)) :=
  let body := lineBody line.toList
  if Text.isAllBlank body then return none
  else do
    let empty ← TokenBuffer.reserve a (t.reservation (String.ofList body)) ⟨[], 0⟩
    let (b, rest) ← empty.collect a t.capacity (t.words body)
    if b.tokens.isEmpty then return none else return some (b, !rest.isEmpty)

/-! ## Collecting within the room -/

namespace TokenBuffer

variable {a : Allocator} {b : TokenBuffer}

theorem reserve_of_room {more : Nat} (h : b.tokens.length + more ≤ b.room) :
    b.reserve a more = pure b := if_pos (by omega)

/-- Copies of words, from a place on. The first that is refused is the end. -/
def copied (a : Allocator) (place : Nat) : List String → Except Refusal (List String)
  | [] => .ok []
  | word :: rest =>
    if a.bytes place word.utf8ByteSize then (copied a (place + 1) rest).map (word :: ·)
    else .error (.bytes word.utf8ByteSize)

theorem eq_of_copied {place : Nat} {words kept : List String}
    (h : copied a place words = .ok kept) : kept = words := by
  induction words generalizing place kept with
  | nil => exact (Except.ok.inj h).symm
  | cons word words ih =>
    rw [copied] at h
    split at h
    · cases hrest : copied a (place + 1) words with
      | error refusal => simp [hrest, Except.map] at h
      | ok rest =>
        rw [hrest] at h
        rw [← Except.ok.inj h, ih hrest]
    · cases h

/-- A vector with room for what is kept of some words collects just these, and asks for no slots. -/
theorem collect_of_room {limit : Nat} {words : List String}
    (h : min limit (b.tokens.length + words.length) ≤ b.room) :
    b.collect a limit words =
      match copied a b.tokens.length (words.take (limit - b.tokens.length)) with
      | .error refusal => throw refusal
      | .ok kept =>
        pure (⟨b.tokens ++ kept, b.room⟩, words.drop (limit - b.tokens.length)) := by
  induction words generalizing b with
  | nil => simp [collect, copied]
  | cons word words ih =>
    rw [collect]
    by_cases hlimit : b.tokens.length < limit
    · rw [if_pos hlimit, reserve_of_room (by simp only [List.length_cons] at h; omega), pure_bind]
      obtain ⟨left, hleft⟩ : ∃ left, limit - b.tokens.length = left + 1 :=
        ⟨limit - b.tokens.length - 1, by omega⟩
      have hpush : limit - (b.push word).tokens.length = left := by
        simp only [push, List.length_append, List.length_singleton]
        omega
      have hrest := @ih (b.push word) (by
        simp only [push, List.length_append, List.length_cons, List.length_nil] at h ⊢
        omega)
      rw [hpush] at hrest
      rw [hleft, List.take_succ_cons, List.drop_succ_cons]
      rw [copied]
      cases hbytes : a.bytes b.tokens.length word.utf8ByteSize with
      | false => simp [Allocator.copy, hbytes]
      | true =>
        have hlength : (b.push word).tokens.length = b.tokens.length + 1 := by simp [push]
        rw [hlength] at hrest
        simp only [Allocator.copy, hbytes, if_true, pure_bind, hrest]
        cases copied a (b.tokens.length + 1) (words.take left) with
        | error refusal => rfl
        | ok kept => simp [push, Except.map]
    · have hnone : limit - b.tokens.length = 0 := by omega
      simp [hlimit, hnone, copied]

end TokenBuffer

namespace Tokenizer

theorem reservation_pos (t : Tokenizer) (body : String) : 1 ≤ t.reservation body := by
  have hcapacity := t.capacity_pos
  unfold reservation
  omega

/-- What is kept of a line finds room in what is set aside for it. -/
theorem kept_le_reservation (t : Tokenizer) (body : List Char) :
    min t.capacity (t.words body).length ≤ t.reservation (String.ofList body) := by
  have hwords := Text.length_words_le t.mode.separates body
  rw [words, List.length_map, reservation, Text.utf8ByteSize_ofList]
  omega

theorem run_gather_of_blank {t : Tokenizer} {line : String} (h : t.tokenize line = none)
    (a : Allocator) : (t.gather a line).run.run [] = (.ok none, []) := by
  rw [gather, if_pos (tokenize_eq_none_iff.1 h)]
  rfl

/-- A line that is not blank has slots asked for once. -/
theorem run_gather {t : Tokenizer} {line : String} {args : ArgumentVector}
    (h : t.tokenize line = some args) (a : Allocator) :
    (t.gather a line).run.run [] =
      (match a.slots (t.reservation (body line)) with
        | none => .error (.slots (t.reservation (body line)))
        | some room =>
          (TokenBuffer.copied a 0 args.tokens).map fun kept => some (⟨kept, room⟩, args.truncated),
        [t.reservation (body line)]) := by
  obtain ⟨hblank, htokens, htruncated⟩ := tokenize_eq_some_iff.1 h
  have hask : ¬ t.reservation (String.ofList (lineBody line.toList)) ≤ 0 - 0 :=
    Nat.not_le.2 (t.reservation_pos _)
  simp only [gather, hblank, Bool.false_eq_true, if_false, TokenBuffer.reserve, List.length_nil,
    hask, Allocator.grant, Nat.zero_add, body]
  cases hslots : a.slots (t.reservation (String.ofList (lineBody line.toList))) with
  | none => rfl
  | some room =>
    have hroom := Nat.le_trans (t.kept_le_reservation (lineBody line.toList)) (a.enough hslots)
    have hcollect : TokenBuffer.collect a t.capacity ⟨[], room⟩ (t.words (lineBody line.toList)) =
        match TokenBuffer.copied a 0 args.tokens with
        | .error refusal => throw refusal
        | .ok kept => pure (⟨kept, room⟩, (t.words (lineBody line.toList)).drop t.capacity) := by
      rw [TokenBuffer.collect_of_room (by simpa using hroom)]
      simp [htokens]
    have hmore : (!((t.words (lineBody line.toList)).drop t.capacity).isEmpty) =
        args.truncated := by
      rw [htruncated, Bool.eq_iff_iff]
      simp
    simp only [pure_bind, bind_assoc, hcollect]
    cases hcopied : TokenBuffer.copied a 0 args.tokens with
    | error refusal => rfl
    | ok kept =>
      obtain rfl := TokenBuffer.eq_of_copied hcopied
      have hsome : args.tokens.isEmpty = false := by simpa using args.tokens_ne_nil
      simp only [pure_bind, hsome, Bool.false_eq_true, if_false, hmore]
      rfl

/-- However words are separated, a line has at most one for two bytes, an odd byte counted as two,
and what is kept of them is no more than is set aside for them beforehand. So tokenizing asks for
slots once, for just that many, and not at all if the line is blank. After that only the bytes of a
token can be refused, and if they are not, the outcome is the vector of the line. -/
theorem tokens_within_reservation (a : Allocator) (t : Tokenizer) (line : String) :
    (t.words (body line).toList).length ≤ ((body line).utf8ByteSize + 1) / 2 ∧
    (t.tokensOf line).length ≤ min t.capacity ((body line).utf8ByteSize / 2 + 1) ∧
    (t.gather a line).run.run [] =
      match t.tokenize line with
      | none => (.ok none, [])
      | some args =>
        (match a.slots (t.reservation (body line)) with
          | none => .error (.slots (t.reservation (body line)))
          | some room =>
            (TokenBuffer.copied a 0 args.tokens).map fun kept =>
              some (⟨kept, room⟩, args.truncated),
          [t.reservation (body line)]) := by
  have hsize : (body line).utf8ByteSize = Text.byteLength (lineBody line.toList) :=
    Text.utf8ByteSize_ofList _
  refine ⟨?_, ?_, ?_⟩
  · rw [hsize, body, String.toList_ofList, words, List.length_map]
    exact Text.length_words_le _ _
  · cases h : t.tokenize line with
    | none => simp [tokensOf, h]
    | some args =>
      have hkept := t.kept_le_reservation (lineBody line.toList)
      rw [← List.length_take, ← (tokenize_eq_some_iff.1 h).2.1] at hkept
      rw [tokensOf, h]
      exact hkept
  · cases h : t.tokenize line with
    | none => exact run_gather_of_blank h a
    | some args => exact run_gather h a

/-- Three words in five bytes take all the room that is set aside for five bytes. -/
example :
    let a : Allocator := ⟨some, fun h => Nat.le_of_eq (Option.some.inj h), fun _ _ => true⟩
    (gather a ⟨64, .whitespace⟩ "a b c\n").run.run [] =
      (.ok (some (⟨["a", "b", "c"], 3⟩, false)), [3]) := by rfl

/-! ## Lines for which there is no room -/

/-- What a session gets for a line where memory may be refused. Whatever was refused, the error is
the one of more room than there can be. -/
def tokenizeIn (a : Allocator) (t : Tokenizer) (line : String) :
    Except ShellError (Option ArgumentVector) :=
  match ((t.gather a line).run.run []).1 with
  | .error _ => .error .tokenize
  | .ok none => .ok none
  | .ok (some (b, truncated)) => .ok (ArgumentVector.ofTokens? truncated b.tokens)

/-- Memory is refused for a line that is not blank: the slots set aside for its tokens, or the bytes
of one of them. -/
def IsRefused (a : Allocator) (t : Tokenizer) (line : String) : Prop :=
  ∃ args, t.tokenize line = some args ∧
    (a.slots (t.reservation (body line)) = none ∨
      ∃ refusal, TokenBuffer.copied a 0 args.tokens = .error refusal)

variable {a : Allocator} {t : Tokenizer} {line : String}

theorem tokenizeIn_of_refused (h : t.IsRefused a line) : t.tokenizeIn a line = .error .tokenize := by
  obtain ⟨args, hargs, hrefused⟩ := h
  rw [tokenizeIn, run_gather hargs]
  rcases hrefused with hslots | ⟨refusal, hcopied⟩
  · simp only [hslots]
  · cases a.slots (t.reservation (body line)) <;> simp only [hcopied, Except.map]

/-- Where nothing is refused, a session gets the vector of the line. -/
theorem tokenizeIn_of_granted (h : ¬ t.IsRefused a line) :
    t.tokenizeIn a line = .ok (t.tokenize line) := by
  cases hargs : t.tokenize line with
  | none => rw [tokenizeIn, run_gather_of_blank hargs]
  | some args =>
    rw [tokenizeIn, run_gather hargs]
    cases hslots : a.slots (t.reservation (body line)) with
    | none => exact absurd ⟨args, hargs, .inl hslots⟩ h
    | some room =>
      cases hcopied : TokenBuffer.copied a 0 args.tokens with
      | error refusal => exact absurd ⟨args, hargs, .inr ⟨refusal, hcopied⟩⟩ h
      | ok kept =>
        obtain rfl := TokenBuffer.eq_of_copied hcopied
        exact congrArg Except.ok (ArgumentVector.ofTokens?_eq_some.2 ⟨rfl, rfl⟩)

end Tokenizer

namespace Session

variable {Dir World : Type} (host : Host Dir World) {a : Allocator} {t : Tokenizer} {line : String}

/-- Where nothing is refused, a line does what it does with all the memory that there is. -/
theorem executeTokenized_of_granted (h : ¬ t.IsRefused a line) (s : State Dir World) :
    executeTokenized host (t.tokenizeIn a line) s = executeLine host t line s := by
  rw [Tokenizer.tokenizeIn_of_granted h, executeLine]

/-- A line for which memory is refused is reported in one line and skipped: nothing of it is run,
and the session goes on where it was. -/
theorem executeTokenized_of_refused (h : t.IsRefused a line) {s : State Dir World}
    (hs : s.IsHealthy) :
    (executeTokenized host (t.tokenizeIn a line) s).Does { reports := ShellError.tokenize.report }
      s.place (.ok .proceed) := by
  rw [Tokenizer.tokenizeIn_of_refused h]
  exact report_does .tokenize hs

end Session

end LineShell
