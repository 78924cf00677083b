import LineShell.Proofs.WrittenSettings
import Mathlib.Algebra.Group.Nat.Defs

/-!
# Limits in decimal

A limit is written in decimal digits, with a plus sign in front or without. A text says a number in
this way, or it has the fault that is met first from left to right. Reading the digits into a word
of 64 bits, each step refused that the word has no room for, comes to the same as reading them into
a number without bounds.
-/

namespace LineShell

namespace Limit

/-! ## What a text says -/

/-- Digits, at least one, and the number that they stand for. -/
structure IsDecimal (cs : List Char) (n : Nat) : Prop where
  nonempty : cs ≠ []
  digits : ∀ c ∈ cs, c.isDigit = true
  value : Nat.ofDigitChars 10 cs 0 = n

/-- A text that says a number: its digits, with a plus sign in front or without. -/
inductive Says : List Char → Nat → Prop where
  | plain {digits : List Char} {n : Nat} (h : IsDecimal digits n) : Says digits n
  | signed {digits : List Char} {n : Nat} (h : IsDecimal digits n) : Says ('+' :: digits) n

/-- A text without the plus sign in front of it, if there is one. -/
def unsigned : List Char → List Char
  | '+' :: digits => digits
  | digits => digits

end Limit

/-- The fault of a text. Digits are good as long as what they stand for fits: a fault behind them
counts only then, and what is behind digits that stand for too much does not matter. -/
inductive LimitFault.Explains : LimitFault → List Char → Prop where
  | empty : Explains .empty []
  | loneSign : Explains .invalidDigit ['+']
  | invalidDigit {text digits rest : List Char} {c : Char}
    (h : Limit.unsigned text = digits ++ c :: rest) (hd : ∀ d ∈ digits, d.isDigit = true)
    (hfits : Nat.ofDigitChars 10 digits 0 ≤ Limit.greatest) (hc : c.isDigit = false) :
    Explains .invalidDigit text
  | tooLarge {text digits rest : List Char} (h : Limit.unsigned text = digits ++ rest)
    (hd : ∀ d ∈ digits, d.isDigit = true)
    (hlarge : Limit.greatest < Nat.ofDigitChars 10 digits 0) : Explains .tooLarge text
  | tooSmall {text : List Char} {n : Nat} (h : Limit.Says text n) (hn : n < 2) :
    Explains .tooSmall text

namespace Limit

/-! ## Reading digits -/

theorem digit?_of_not_isDigit {c : Char} (h : c.isDigit = false) : digit? c = none := by
  simp [digit?, h]

theorem lt_ten_of_digit? {c : Char} {d : Nat} (h : digit? c = some d) : d < 10 := by
  unfold digit? at h
  split at h
  · next hc =>
    have hle : c.toNat ≤ 57 := by
      simp only [Char.isDigit, Bool.and_eq_true, decide_eq_true_eq, UInt32.le_iff_toNat_le] at hc
      exact hc.2
    obtain rfl : c.toNat - '0'.toNat = d := Option.some.inj h
    show c.toNat - 48 < 10
    omega
  · cases h

theorem readDigits_of_not_isDigit {c : Char} (h : c.isDigit = false) (sofar : Nat)
    (rest : List Char) : readDigits sofar (c :: rest) = .error .invalidDigit := by
  rw [readDigits, digit?_of_not_isDigit h]

/-- Digits that stand for too much are refused, whatever is behind them. -/
theorem readDigits_of_large {digits : List Char} (hd : ∀ c ∈ digits, c.isDigit = true)
    {sofar : Nat} (hs : sofar ≤ greatest) (h : greatest < Nat.ofDigitChars 10 digits sofar)
    (rest : List Char) : readDigits sofar (digits ++ rest) = .error .tooLarge := by
  induction digits generalizing sofar with
  | nil => exact absurd h (Nat.not_lt.2 hs)
  | cons c digits ih =>
    rw [Nat.ofDigitChars_cons, Nat.mul_comm] at h
    rw [List.cons_append, readDigits, digit?_of_isDigit (hd c (by simp))]
    by_cases hnext : greatest < sofar * 10 + (c.toNat - '0'.toNat)
    · exact if_pos hnext
    · simp only [hnext, if_false]
      exact ih (fun d hm => hd d (by simp [hm])) (Nat.not_lt.1 hnext) h

/-! ## Reading a text -/

theorem readNumber_eq {text : List Char} (hne : text ≠ []) (hsign : text ≠ ['+']) :
    readNumber text = readDigits 0 (unsigned text) := by
  unfold readNumber unsigned
  split
  · exact absurd rfl hne
  · exact absurd rfl hsign
  · rfl
  · next hplus =>
    split
    · exact absurd rfl (hplus _)
    · rfl

theorem IsDecimal.unsigned_eq {digits : List Char} {n : Nat} (h : IsDecimal digits n) :
    unsigned digits = digits := by
  unfold unsigned
  split
  · exact absurd (h.digits '+' (by simp)) (by decide)
  · rfl

theorem Says.isDecimal_unsigned {text : List Char} {n : Nat} (h : Says text n) :
    IsDecimal (unsigned text) n := by
  cases h with
  | plain h => rwa [h.unsigned_eq]
  | signed h => exact h

theorem Says.of_isDecimal {text : List Char} {n : Nat} (h : IsDecimal (unsigned text) n) :
    Says text n := by
  unfold unsigned at h
  split at h
  · exact .signed h
  · exact .plain h

theorem ne_of_unsigned_ne_nil {text : List Char} (h : unsigned text ≠ []) :
    text ≠ [] ∧ text ≠ ['+'] := by
  constructor <;> rintro rfl <;> exact h rfl

/-- A text that says a number is read as that number, if it is not too large. -/
theorem Says.readNumber_eq {text : List Char} {n : Nat} (h : Says text n) (hn : n ≤ greatest) :
    readNumber text = .ok n := by
  obtain ⟨hne, hdigits, rfl⟩ := h.isDecimal_unsigned
  obtain ⟨hnil, hsign⟩ := ne_of_unsigned_ne_nil hne
  rw [Limit.readNumber_eq hnil hsign, readDigits_eq hdigits hn]

theorem Says.parse_eq {text : String} {n : Nat} (h : Says text.toList n) (htwo : 2 ≤ n)
    (hn : n ≤ greatest) : parse text = .ok n := by
  simp [parse, h.readNumber_eq hn, Nat.not_lt.2 htwo]

/-- The fault of a text is the one that it is refused for. -/
theorem parse_of_explains {text : String} {fault : LimitFault} (h : fault.Explains text.toList) :
    parse text = .error fault := by
  unfold parse
  generalize text.toList = cs at h
  cases h with
  | empty => rfl
  | loneSign => rfl
  | invalidDigit h hd hfits hc =>
    obtain ⟨hnil, hsign⟩ := ne_of_unsigned_ne_nil (by simp [h] : unsigned cs ≠ [])
    rw [readNumber_eq hnil hsign, h, readDigits_append hd hfits, readDigits_of_not_isDigit hc]
  | @tooLarge _ digits rest h hd hlarge =>
    have hne : digits ++ rest ≠ [] := by
      rintro he
      obtain ⟨rfl, -⟩ := List.append_eq_nil_iff.1 he
      exact Nat.not_lt_zero _ hlarge
    obtain ⟨hnil, hsign⟩ := ne_of_unsigned_ne_nil (h ▸ hne)
    rw [readNumber_eq hnil hsign, h, readDigits_of_large hd (Nat.zero_le _) hlarge]
  | tooSmall h hn =>
    have hle : _ ≤ greatest := Nat.le_trans (Nat.le_of_lt hn) (by decide)
    simp [h.readNumber_eq hle, hn]

/-- Any text says a limit or has a fault. -/
theorem says_or_explains (text : List Char) :
    (∃ n, Says text n ∧ 2 ≤ n ∧ n ≤ greatest) ∨ ∃ fault : LimitFault, fault.Explains text := by
  -- The digits that a text begins with decide, behind its sign.
  have hparts := List.takeWhile_append_dropWhile (p := Char.isDigit) (l := unsigned text)
  generalize hdigits : (unsigned text).takeWhile Char.isDigit = digits at hparts
  have hd : ∀ c ∈ digits, c.isDigit = true := fun c hc =>
    List.mem_takeWhile_imp (hdigits.symm ▸ hc)
  by_cases hlarge : greatest < Nat.ofDigitChars 10 digits 0
  · exact .inr ⟨.tooLarge, .tooLarge hparts.symm hd hlarge⟩
  cases hrest : (unsigned text).dropWhile Char.isDigit with
  | cons c rest =>
    have hc : c.isDigit = false := by
      have := List.head?_dropWhile_not Char.isDigit (unsigned text)
      simpa [hrest] using this
    rw [hrest] at hparts
    exact .inr ⟨.invalidDigit, .invalidDigit hparts.symm hd (Nat.not_lt.1 hlarge) hc⟩
  | nil =>
    rw [hrest, List.append_nil] at hparts
    by_cases hne : digits = []
    · -- Nothing is there but a sign, or not even that.
      rw [hne] at hparts
      unfold unsigned at hparts
      split at hparts
      · next rest =>
        subst hparts
        exact .inr ⟨_, .loneSign⟩
      · subst hparts
        exact .inr ⟨_, .empty⟩
    · have hsaid : Says text (Nat.ofDigitChars 10 digits 0) :=
        .of_isDecimal (hparts ▸ ⟨hne, hd, rfl⟩)
      by_cases htwo : Nat.ofDigitChars 10 digits 0 < 2
      · exact .inr ⟨_, .tooSmall hsaid htwo⟩
      · exact .inl ⟨_, hsaid, Nat.not_lt.1 htwo, Nat.not_lt.1 hlarge⟩

theorem parse_eq_ok_iff {text : String} {n : Nat} :
    parse text = .ok n ↔ Says text.toList n ∧ 2 ≤ n ∧ n ≤ greatest := by
  constructor
  · intro h
    obtain ⟨m, hm, htwo, hle⟩ | ⟨fault, hfault⟩ := says_or_explains text.toList
    · obtain rfl : m = n := Except.ok.inj ((hm.parse_eq htwo hle).symm.trans h)
      exact ⟨hm, htwo, hle⟩
    · cases h.symm.trans (parse_of_explains hfault)
  · rintro ⟨h, htwo, hle⟩
    exact h.parse_eq htwo hle

theorem parse_eq_error_iff {text : String} {fault : LimitFault} :
    parse text = .error fault ↔ fault.Explains text.toList := by
  constructor
  · intro h
    obtain ⟨m, hm, htwo, hle⟩ | ⟨fault', hfault⟩ := says_or_explains text.toList
    · cases h.symm.trans (hm.parse_eq htwo hle)
    · obtain rfl : fault' = fault := Except.error.inj ((parse_of_explains hfault).symm.trans h)
      exact hfault
  · exact parse_of_explains

/-- The decimal form of a number says that number and no other. -/
theorem says_toString_iff {n m : Nat} : Says (toString n).toList m ↔ n = m := by
  have hdecimal : IsDecimal (toString n).toList n := by
    rw [Nat.toString_eq_repr, Nat.toList_repr]
    exact ⟨Nat.toDigits_ne_nil, fun c => isDigit_of_mem_toDigits, Nat.ofDigitChars_ten_toDigits⟩
  constructor
  · intro h
    have hvalue := h.isDecimal_unsigned.value
    rw [hdecimal.unsigned_eq, hdecimal.value] at hvalue
    exact hvalue
  · rintro rfl
    exact .plain hdecimal

/-! ## Reading into a word -/

/-- The product of two words, if it fits into a word. -/
def checkedMul (a b : UInt64) : Option UInt64 :=
  if a.toNat * b.toNat < UInt64.size then some (a * b) else none

/-- The sum of two words, if it fits into a word. -/
def checkedAdd (a b : UInt64) : Option UInt64 :=
  if a.toNat + b.toNat < UInt64.size then some (a + b) else none

/-- What digits add to the word read so far. -/
def readWord (sofar : UInt64) : List Char → Except LimitFault UInt64
  | [] => .ok sofar
  | c :: rest =>
    match digit? c with
    | none => .error .invalidDigit
    | some d =>
      match (checkedMul sofar 10).bind fun tens => checkedAdd tens (UInt64.ofNat d) with
      | none => .error .tooLarge
      | some next => readWord next rest

/-- The number of a text as a word, without regard to the least limit. -/
def readNumberWord (cs : List Char) : Except LimitFault UInt64 :=
  if cs = [] then .error .empty
  else if cs = ['+'] then .error .invalidDigit
  else readWord 0 (unsigned cs)

/-- The limit of a text as a word. -/
def parseWord (text : String) : Except LimitFault UInt64 :=
  match readNumberWord text.toList with
  | .error fault => .error fault
  | .ok n => if n < 2 then .error .tooSmall else .ok n

/-- A step is refused if its outcome does not fit, and otherwise nothing of it is lost. -/
theorem checked_step (sofar : UInt64) {d : Nat} (hd : d < 10) :
    ((checkedMul sofar 10).bind fun tens => checkedAdd tens (UInt64.ofNat d)).map UInt64.toNat =
      if greatest < sofar.toNat * 10 + d then none else some (sofar.toNat * 10 + d) := by
  have hdigit : (UInt64.ofNat d).toNat = d :=
    UInt64.toNat_ofNat_of_lt (Nat.lt_trans hd (by decide))
  have hten : (10 : UInt64).toNat = 10 := rfl
  have hsize : greatest + 1 = UInt64.size := rfl
  unfold checkedMul
  rw [hten]
  by_cases hmul : sofar.toNat * 10 < UInt64.size
  · have hproduct : (sofar * 10).toNat = sofar.toNat * 10 := by
      rw [UInt64.toNat_mul, hten, Nat.mod_eq_of_lt hmul]
    rw [if_pos hmul, Option.bind_some, checkedAdd, hproduct, hdigit]
    by_cases hadd : sofar.toNat * 10 + d < UInt64.size
    · rw [if_pos hadd, if_neg (by omega), Option.map_some, UInt64.toNat_add, hproduct, hdigit,
        Nat.mod_eq_of_lt hadd]
    · rw [if_neg hadd, if_pos (by omega), Option.map_none]
  · rw [if_neg hmul, if_pos (by omega), Option.bind_none, Option.map_none]

theorem readWord_eq (sofar : UInt64) (cs : List Char) :
    (readWord sofar cs).map UInt64.toNat = readDigits sofar.toNat cs := by
  induction cs generalizing sofar with
  | nil => rfl
  | cons c cs ih =>
    rw [readWord, readDigits]
    cases hc : digit? c with
    | none => rfl
    | some d =>
      have hstep := checked_step sofar (lt_ten_of_digit? hc)
      dsimp only
      cases hnext : (checkedMul sofar 10).bind fun tens => checkedAdd tens (UInt64.ofNat d) with
      | none =>
        rw [hnext] at hstep
        have hlarge : greatest < sofar.toNat * 10 + d := by simpa using hstep
        rw [if_pos hlarge]
        rfl
      | some next =>
        rw [hnext] at hstep
        by_cases hlarge : greatest < sofar.toNat * 10 + d
        · simp [hlarge] at hstep
        · rw [if_neg hlarge] at hstep ⊢
          rw [ih next, Option.some.inj hstep]

theorem readNumberWord_eq (cs : List Char) :
    (readNumberWord cs).map UInt64.toNat = readNumber cs := by
  unfold readNumberWord
  split
  · next hnil => rw [hnil]; rfl
  · next hnil =>
    split
    · next hsign => rw [hsign]; rfl
    · next hsign => rw [readNumber_eq hnil hsign, readWord_eq]; rfl

/-- A limit read into a word is the limit. -/
theorem parseWord_eq (text : String) : (parseWord text).map UInt64.toNat = parse text := by
  unfold parseWord parse
  rw [← readNumberWord_eq]
  cases readNumberWord text.toList with
  | error fault => rfl
  | ok n =>
    have htwo : n < 2 ↔ n.toNat < 2 := UInt64.lt_iff_toNat_lt
    by_cases hsmall : n.toNat < 2 <;> simp [Except.map, htwo, hsmall]

end Limit

/-! ## Limits among the settings -/

/-- The keys of limits. -/
inductive LimitKey where
  | maxLine
  | maxArgs
  deriving DecidableEq, Repr

namespace LimitKey

/-- The key as one of all keys. -/
def key : LimitKey → SettingKey
  | .maxLine => .maxLine
  | .maxArgs => .maxArgs

/-- Settings with a number as the limit of a key. -/
def put (n : Nat) (s : Settings) : LimitKey → Settings
  | .maxLine => { s with maxLine := n }
  | .maxArgs => { s with maxArgs := n }

end LimitKey

namespace Settings

/-- Assigning to the key of a limit reads the text and writes the number. -/
theorem set_limit (s : Settings) (k : LimitKey) (text : String) :
    s.set k.key.name text =
      match Limit.parse text with
      | .ok n => .ok (k.put n s)
      | .error fault => .error (.invalidValue k.key.name text (.limit fault)) := by
  rw [set, SettingKey.ofName?_name]
  cases k <;> cases hp : Limit.parse text <;>
    simp [LimitKey.key, LimitKey.put, assign, hp, Except.map, Except.mapError]

variable {s : Settings} {k : LimitKey} {text : String}

theorem set_limit_eq_ok_iff {changed : Settings} : s.set k.key.name text = .ok changed ↔
    ∃ n, Limit.Says text.toList n ∧ 2 ≤ n ∧ n < 2 ^ 64 ∧ changed = k.put n s := by
  have hbound : ∀ n, n ≤ Limit.greatest ↔ n < 2 ^ 64 := fun n => Nat.lt_succ_iff.symm
  simp only [← hbound, set_limit]
  constructor
  · intro h
    cases hp : Limit.parse text with
    | ok n =>
      obtain ⟨hsaid, htwo, hle⟩ := Limit.parse_eq_ok_iff.1 hp
      rw [hp] at h
      exact ⟨n, hsaid, htwo, hle, (Except.ok.inj h).symm⟩
    | error fault =>
      rw [hp] at h
      cases h
  · rintro ⟨n, hsaid, htwo, hle, rfl⟩
    rw [hsaid.parse_eq htwo hle]

theorem set_limit_eq_error_iff {e : SettingError} : s.set k.key.name text = .error e ↔
    ∃ fault : LimitFault, fault.Explains text.toList ∧
      e = .invalidValue k.key.name text (.limit fault) := by
  rw [set_limit]
  constructor
  · intro h
    cases hp : Limit.parse text with
    | ok n =>
      rw [hp] at h
      cases h
    | error fault =>
      rw [hp] at h
      exact ⟨fault, Limit.parse_eq_error_iff.1 hp, (Except.error.inj h).symm⟩
  · rintro ⟨fault, hfault, rfl⟩
    rw [Limit.parse_of_explains hfault]

theorem set_limit_toString_iff {n : Nat} :
    s.set k.key.name (toString n) = .ok (k.put n s) ↔ 2 ≤ n ∧ n < 2 ^ 64 := by
  rw [set_limit_eq_ok_iff]
  constructor
  · rintro ⟨m, hm, htwo, hlt, -⟩
    rw [Limit.says_toString_iff.1 hm]
    exact ⟨htwo, hlt⟩
  · rintro ⟨htwo, hlt⟩
    exact ⟨n, Limit.says_toString_iff.2 rfl, htwo, hlt, rfl⟩

/-- A text is accepted for a limit just when it says a number in decimal that is at least 2 and fits
into 64 bits, and then that number is what is kept, with everything else as it was. Any other text
is refused with the key, the text as it is, and its fault. Reading into a word of 64 bits, with
every step checked, comes to the same. The decimal form of a number gives that number back, if it is
one of these. -/
theorem set_reads_decimal (s : Settings) (k : LimitKey) (text : String) :
    (∀ changed, s.set k.key.name text = .ok changed ↔
      ∃ n, Limit.Says text.toList n ∧ 2 ≤ n ∧ n < 2 ^ 64 ∧ changed = k.put n s) ∧
    (∀ e, s.set k.key.name text = .error e ↔
      ∃ fault : LimitFault, fault.Explains text.toList ∧
        e = .invalidValue k.key.name text (.limit fault)) ∧
    (s.set k.key.name text =
      match Limit.parseWord text with
      | .ok w => .ok (k.put w.toNat s)
      | .error fault => .error (.invalidValue k.key.name text (.limit fault))) ∧
    ∀ n, s.set k.key.name (toString n) = .ok (k.put n s) ↔ 2 ≤ n ∧ n < 2 ^ 64 := by
  refine ⟨fun changed => set_limit_eq_ok_iff, fun e => set_limit_eq_error_iff, ?_,
    fun n => set_limit_toString_iff⟩
  rw [set_limit, ← Limit.parseWord_eq]
  cases Limit.parseWord text <;> rfl

/-- The largest limit with a sign and zeros in front, and the number after it. -/
example : Limit.parse "+0018446744073709551615" = .ok 18446744073709551615 ∧
    Limit.parse "18446744073709551616" = .error .tooLarge := by decide +kernel

end Settings

end LineShell
