import LineShell.WaitStatus
import Mathlib.Algebra.Group.Nat.Defs
import Mathlib.Data.List.Nodup
import Mathlib.Data.Set.Function
import Mathlib.Order.Interval.Set.Defs

/-!
# The words that a wait gives

A word of 32 bits shows one of five states of a child, and the system tests for each with its own
masks and shifts: the masks overlap, and the test for a signal moves a signed byte. The numbers that
a status is read by agree with these tests. So every word has one state and one only, whoever has
ended has a code or a signal, and what is said of the ended tells which.
-/

namespace LineShell

variable {s t : WaitStatus}

/-! ## States -/

/-- What a word can show of a child. -/
inductive ChildState where
  | exited (code : Nat)
  | killed (signal : Nat)
  | stopped (signal : Nat)
  | continued
  | unrecognised (raw : UInt32)
  deriving DecidableEq

namespace ChildState

/-- The code of a child that exited. -/
def exitCode? : ChildState → Option Nat
  | .exited code => some code
  | _ => none

/-- The signal that ended a child. -/
def signal? : ChildState → Option Nat
  | .killed signal => some signal
  | _ => none

/-- Whether the child is no more. -/
def hasEnded : ChildState → Bool
  | .exited _ | .killed _ => true
  | .stopped _ | .continued | .unrecognised _ => false

/-- What is said of a child, by the names that signals have. -/
def text (name : Nat → String) : ChildState → String
  | .exited code => "exit status " ++ toString code
  | .killed signal => "terminated by " ++ name signal
  | .stopped signal => "stopped (not terminated) by signal: " ++ WaitStatus.stopText signal
  | .continued => "continued (WIFCONTINUED)"
  | .unrecognised raw =>
    "unrecognised wait status: " ++ toString (WaitStatus.signed raw) ++ " 0x" ++
      String.ofList (Text.hexadecimal raw.toNat)

end ChildState

/-- How a child ends: it exits with a code, or a signal ends it and may leave a core. -/
inductive ChildEnd where
  | exit (code : UInt8)
  | signal (number : Nat) (hasCore : Bool) (isSignal : 1 ≤ number ∧ number ≤ 126)

namespace ChildEnd

/-- The state that the child is left in. -/
def state : ChildEnd → ChildState
  | .exit code => .exited code.toNat
  | .signal number _ _ => .killed number

/-- The word that the system gives of it. -/
def status : ChildEnd → WaitStatus
  | .exit code => .exited code.toNat
  | .signal number hasCore _ => ⟨(WaitStatus.killed number).raw ||| if hasCore then 0x80 else 0⟩

end ChildEnd

namespace WaitStatus

/-! ## Masks and shifts -/

/-- Whether a word shows a state, as the system tests for it. -/
def Shows (s : WaitStatus) : ChildState → Prop
  | .exited code => s.raw &&& 0x7F = 0 ∧ ((s.raw >>> 8) &&& 0xFF).toNat = code
  | .killed signal =>
    (0 : Int8) < ((s.raw &&& 0x7F) + 1).toUInt8.toInt8 >>> 1 ∧ (s.raw &&& 0x7F).toNat = signal
  | .stopped signal => s.raw &&& 0xFF = 0x7F ∧ ((s.raw >>> 8) &&& 0xFF).toNat = signal
  | .continued => s.raw = 0xFFFF
  | .unrecognised raw => s.raw &&& 0xFF = 0xFF ∧ s.raw ≠ 0xFFFF ∧ s.raw = raw

theorem toNat_mask {raw mask : UInt32} (width : Nat) (h : mask.toNat = 2 ^ width - 1) :
    (raw &&& mask).toNat = raw.toNat % 2 ^ width := by
  rw [UInt32.toNat_and, h, Nat.and_two_pow_sub_one_eq_mod]

theorem mask_eq_iff {raw mask bits : UInt32} (width : Nat) (h : mask.toNat = 2 ^ width - 1) :
    raw &&& mask = bits ↔ raw.toNat % 2 ^ width = bits.toNat := by
  rw [← toNat_mask width h, UInt32.toNat_inj]

theorem toNat_lowMask (s : WaitStatus) : (s.raw &&& 0x7F).toNat = s.low :=
  toNat_mask 7 rfl

theorem toNat_highMask (s : WaitStatus) : ((s.raw >>> 8) &&& 0xFF).toNat = s.high := by
  rw [toNat_mask 8 rfl, UInt32.toNat_shiftRight]
  exact congrArg (· % 256) (Nat.shiftRight_eq_div_pow s.raw.toNat 8)

/-- Of the 128 values of the low bits, 0 moves to 0, and 127 becomes the least signed byte and moves
to a negative number. -/
theorem signedShift_table : ∀ low : Fin 128,
    (0 : Int8) < ((UInt32.ofNat low + 1).toUInt8.toInt8 >>> 1) ↔ 1 ≤ low.1 ∧ low.1 ≤ 126 := by
  decide +kernel

theorem signedShift_pos_iff :
    (0 : Int8) < ((s.raw &&& 0x7F) + 1).toUInt8.toInt8 >>> 1 ↔ 1 ≤ s.low ∧ s.low ≤ 126 := by
  have hlow : s.low < 128 := Nat.mod_lt _ (by decide)
  have hmask : s.raw &&& 0x7F = UInt32.ofNat s.low := by
    rw [← toNat_lowMask, UInt32.ofNat_toNat]
  rw [hmask]
  exact signedShift_table ⟨s.low, hlow⟩

/-! ## The state of a word -/

theorem exitCode?_le {code : Nat} (h : s.exitCode? = some code) : code ≤ 255 := by
  rw [exitCode?, Option.ite_none_right_eq_some, Option.some.injEq] at h
  obtain ⟨-, rfl⟩ := h
  exact Nat.le_of_lt_succ (Nat.mod_lt _ (by decide))

theorem signal?_mem_Icc {signal : Nat} (h : s.signal? = some signal) :
    signal ∈ Set.Icc 1 126 := by
  rw [signal?, Option.ite_none_right_eq_some, Option.some.injEq] at h
  obtain ⟨hrange, rfl⟩ := h
  exact hrange

theorem shows_exited_iff {code : Nat} : s.Shows (.exited code) ↔ s.exitCode? = some code := by
  have hzero : s.raw &&& 0x7F = 0 ↔ s.low = 0 := mask_eq_iff 7 rfl
  simp only [Shows, hzero, toNat_highMask, exitCode?, Option.ite_none_right_eq_some,
    Option.some.injEq]

theorem shows_killed_iff {signal : Nat} : s.Shows (.killed signal) ↔ s.signal? = some signal := by
  simp only [Shows, signedShift_pos_iff, toNat_lowMask, signal?, Option.ite_none_right_eq_some,
    Option.some.injEq]

theorem shows_stopped_iff {signal : Nat} :
    s.Shows (.stopped signal) ↔ s.stopSignal? = some signal := by
  have hbyte : s.raw &&& 0xFF = 0x7F ↔ s.raw.toNat % 256 = 127 := mask_eq_iff 8 rfl
  simp only [Shows, hbyte, toNat_highMask, stopSignal?, Option.ite_none_right_eq_some,
    Option.some.injEq]

theorem shows_continued_iff : s.Shows .continued ↔ s.continued = true := by
  rw [continued, decide_eq_true_iff]
  exact UInt32.toNat_inj.symm

theorem shows_unrecognised_iff {raw : UInt32} :
    s.Shows (.unrecognised raw) ↔
      s.raw.toNat % 256 = 255 ∧ s.continued = false ∧ s.raw = raw := by
  have hbyte : s.raw &&& 0xFF = 0xFF ↔ s.raw.toNat % 256 = 255 := mask_eq_iff 8 rfl
  have hword : s.raw ≠ 0xFFFF ↔ s.continued = false := by
    rw [← Bool.not_eq_true, ← shows_continued_iff]
    rfl
  simp only [Shows, hbyte, hword]

/-- The state that a word shows. -/
def state (s : WaitStatus) : ChildState :=
  match s.exitCode?, s.signal?, s.stopSignal? with
  | some code, _, _ => .exited code
  | none, some signal, _ => .killed signal
  | none, none, some signal => .stopped signal
  | none, none, none => if s.continued then .continued else .unrecognised s.raw

theorem exitCode?_eq_none_iff : s.exitCode? = none ↔ s.low ≠ 0 := by
  simp [exitCode?]

theorem signal?_eq_none_iff : s.signal? = none ↔ s.low = 0 ∨ s.low = 127 := by
  have hlow : s.low < 128 := Nat.mod_lt _ (by decide)
  simp only [signal?, ite_eq_right_iff, reduceCtorEq, imp_false]
  omega

theorem stopSignal?_eq_none_iff : s.stopSignal? = none ↔ s.raw.toNat % 256 ≠ 127 := by
  simp [stopSignal?]

theorem neither_iff_low : s.exitCode? = none ∧ s.signal? = none ↔ s.low = 127 := by
  rw [exitCode?_eq_none_iff, signal?_eq_none_iff]
  omega

theorem state_of_exitCode? {code : Nat} (h : s.exitCode? = some code) :
    s.state = .exited code := by
  rw [state, h]

theorem state_of_signal? {signal : Nat} (h : s.signal? = some signal) :
    s.state = .killed signal := by
  have hcode : s.exitCode? = none := by
    rw [exitCode?_eq_none_iff]
    intro hlow
    rw [signal?_eq_none_iff.2 (.inl hlow)] at h
    cases h
  rw [state, hcode, h]

theorem state_of_stopSignal? {signal : Nat} (h : s.stopSignal? = some signal) :
    s.state = .stopped signal := by
  have hbyte : s.raw.toNat % 256 = 127 := by
    by_contra hne
    rw [stopSignal?_eq_none_iff.2 hne] at h
    cases h
  obtain ⟨hcode, hsignal⟩ := neither_iff_low.2 (show s.raw.toNat % 128 = 127 by omega)
  rw [state, hcode, hsignal, h]

theorem state_of_byte (h : s.raw.toNat % 256 = 255) :
    s.state = if s.continued then .continued else .unrecognised s.raw := by
  obtain ⟨hcode, hsignal⟩ := neither_iff_low.2 (show s.raw.toNat % 128 = 127 by omega)
  rw [state, hcode, hsignal, stopSignal?_eq_none_iff.2 (by omega)]

/-- A word shows its own state and no other. -/
theorem shows_iff {c : ChildState} : s.Shows c ↔ s.state = c := by
  constructor
  · intro h
    cases c with
    | exited code => exact state_of_exitCode? (shows_exited_iff.1 h)
    | killed signal => exact state_of_signal? (shows_killed_iff.1 h)
    | stopped signal => exact state_of_stopSignal? (shows_stopped_iff.1 h)
    | continued =>
      have hcontinued := shows_continued_iff.1 h
      have hbyte : s.raw.toNat % 256 = 255 := by
        rw [continued, decide_eq_true_iff] at hcontinued
        rw [hcontinued]
      rw [state_of_byte hbyte, if_pos hcontinued]
    | unrecognised raw =>
      obtain ⟨hbyte, hcontinued, rfl⟩ := shows_unrecognised_iff.1 h
      rw [state_of_byte hbyte, hcontinued, if_neg Bool.false_ne_true]
  · rintro rfl
    cases hcode : s.exitCode? with
    | some code => rw [state_of_exitCode? hcode]; exact shows_exited_iff.2 hcode
    | none =>
    cases hsignal : s.signal? with
    | some signal => rw [state_of_signal? hsignal]; exact shows_killed_iff.2 hsignal
    | none =>
    cases hstop : s.stopSignal? with
    | some signal => rw [state_of_stopSignal? hstop]; exact shows_stopped_iff.2 hstop
    | none =>
      -- With all the low bits set, the lowest byte is 127 or 255, and 127 is taken.
      have hlow : s.raw.toNat % 128 = 127 := neither_iff_low.1 ⟨hcode, hsignal⟩
      have hbyte : s.raw.toNat % 256 = 255 := by
        have := stopSignal?_eq_none_iff.1 hstop
        omega
      rw [state_of_byte hbyte]
      cases hcontinued : s.continued with
      | true => exact shows_continued_iff.2 hcontinued
      | false => exact shows_unrecognised_iff.2 ⟨hbyte, hcontinued, rfl⟩

/-- What a status is read by is what its state has. -/
theorem exitCode?_state (s : WaitStatus) : s.state.exitCode? = s.exitCode? := by
  cases hstate : s.state with
  | exited code => exact (shows_exited_iff.1 (shows_iff.2 hstate)).symm
  | _ =>
    cases hcode : s.exitCode? with
    | none => rfl
    | some code => rw [state_of_exitCode? hcode] at hstate; cases hstate

theorem signal?_state (s : WaitStatus) : s.state.signal? = s.signal? := by
  cases hstate : s.state with
  | killed signal => exact (shows_killed_iff.1 (shows_iff.2 hstate)).symm
  | _ =>
    cases hsignal : s.signal? with
    | none => rfl
    | some signal => rw [state_of_signal? hsignal] at hstate; cases hstate

theorem signal?_of_exitCode? {code : Nat} (h : s.exitCode? = some code) : s.signal? = none := by
  rw [← signal?_state, state_of_exitCode? h]
  rfl

theorem exitCode?_of_signal? {signal : Nat} (h : s.signal? = some signal) :
    s.exitCode? = none := by
  rw [← exitCode?_state, state_of_signal? h]
  rfl

/-! ## Ends -/

/-- Whether a word shows a child that is no more. -/
def HasEnded (s : WaitStatus) : Prop := ∃ c, s.Shows c ∧ c.hasEnded = true

theorem hasEnded_iff : s.HasEnded ↔ s.state.hasEnded = true := by
  constructor
  · rintro ⟨c, hshows, hended⟩
    rwa [shows_iff.1 hshows]
  · intro h
    exact ⟨s.state, shows_iff.2 rfl, h⟩

/-- A word has neither a code nor a signal when its child has not ended, and only then. -/
theorem neither_iff : s.exitCode? = none ∧ s.signal? = none ↔ ¬ s.HasEnded := by
  rw [hasEnded_iff, Bool.not_eq_true, ← exitCode?_state, ← signal?_state]
  cases s.state <;> simp [ChildState.exitCode?, ChildState.signal?, ChildState.hasEnded]

theorem HasEnded.code_or_signal (h : s.HasEnded) :
    (∃ code, s.exitCode? = some code) ∨ ∃ signal, s.signal? = some signal := by
  obtain ⟨c, hshows, hended⟩ := h
  cases c with
  | exited code => exact .inl ⟨code, shows_exited_iff.1 hshows⟩
  | killed signal => exact .inr ⟨signal, shows_killed_iff.1 hshows⟩
  | _ => cases hended

/-- A child that has not ended was stopped or went on, or nobody can say. -/
theorem not_hasEnded_iff : ¬ s.HasEnded ↔
    (∃ signal, s.Shows (.stopped signal)) ∨ s.Shows .continued ∨
      s.Shows (.unrecognised s.raw) := by
  rw [hasEnded_iff, Bool.not_eq_true]
  constructor
  · intro h
    have hshows := shows_iff.2 (rfl : s.state = s.state)
    cases hstate : s.state with
    | stopped signal => exact .inl ⟨signal, hstate ▸ hshows⟩
    | continued => exact .inr (.inl (hstate ▸ hshows))
    | unrecognised raw =>
      rw [hstate] at hshows
      obtain ⟨-, -, hraw⟩ := hshows
      exact .inr (.inr (shows_iff.2 (hraw ▸ hstate)))
    | _ => rw [hstate] at h; cases h
  · rintro (⟨signal, h⟩ | h | h) <;> rw [shows_iff.1 h] <;> rfl

theorem low_or_core (raw : UInt32) : low ⟨raw ||| 0x80⟩ = low ⟨raw⟩ := by
  rw [low, UInt32.toNat_or]
  exact (Nat.or_mod_two_pow (n := 7)).trans (Nat.or_zero _)

/-- Two words that differ in the bit of a core at most have the same low bits. -/
theorem low_eq_of_core (h : t.raw ||| 0x80 = s.raw ||| 0x80) : t.low = s.low := by
  rw [← low_or_core t.raw, h, low_or_core]

theorem state_eq_of_core (h : t.raw ||| 0x80 = s.raw ||| 0x80) {signal : Nat}
    (hsignal : s.signal? = some signal) : t.state = s.state := by
  have hsignal' : t.signal? = some signal := by
    rw [signal?, low_eq_of_core h]
    exact hsignal
  rw [state_of_signal? hsignal, state_of_signal? hsignal']

theorem exitCode?_exited (code : UInt8) : (exited code.toNat).exitCode? = some code.toNat := by
  have hcode : code.toNat < 256 := code.toNat_lt
  have hraw : (exited code.toNat).raw.toNat = code.toNat * 256 := by
    rw [exited, UInt32.toNat_ofNat', Nat.mod_eq_of_lt hcode]
    omega
  rw [exitCode?, low, high, hraw, if_pos (by omega)]
  congr 1
  omega

theorem signal?_killed {signal : Nat} (h : 1 ≤ signal ∧ signal ≤ 126) :
    (killed signal).signal? = some signal := by
  have hraw : (killed signal).raw.toNat = signal := by
    rw [killed, UInt32.toNat_ofNat']
    omega
  have hlow : (killed signal).low = signal := by
    rw [low, hraw]
    omega
  rw [signal?, hlow, if_pos h]

/-- The word of an end shows that end. -/
theorem state_status (e : ChildEnd) : e.status.state = e.state := by
  cases e with
  | exit code => exact state_of_exitCode? (exitCode?_exited code)
  | signal number hasCore isSignal =>
    have hkilled := signal?_killed isSignal
    rw [ChildEnd.state, ← state_of_signal? hkilled]
    refine state_eq_of_core ?_ hkilled
    cases hasCore <;> rw [ChildEnd.status, UInt32.or_assoc] <;> rfl

theorem hasEnded_status (e : ChildEnd) : e.status.HasEnded := by
  rw [hasEnded_iff, state_status]
  cases e <;> rfl

/-! ## What is said -/

variable {name : Nat → String}

/-- The description, by the names that signals have. -/
def describeBy (name : Nat → String) (s : WaitStatus) : String :=
  match s.exitCode?, s.signal? with
  | some code, _ => "exit status " ++ toString code
  | none, some signal => "terminated by " ++ name signal
  | none, none => s.otherText

theorem describeBy_signalText (s : WaitStatus) : s.describeBy signalText = s.describe := rfl

/-- What is said of a status is what is said of its state. -/
theorem describeBy_eq_text : s.describeBy name = s.state.text name := by
  rw [describeBy, state]
  cases s.exitCode? with
  | some code => rfl
  | none =>
  cases s.signal? with
  | some signal => rfl
  | none =>
    rw [otherText]
    cases s.stopSignal? with
    | some signal => rfl
    | none => cases s.continued <;> rfl

theorem describeBy_of_exitCode? {code : Nat} (h : s.exitCode? = some code) :
    s.describeBy name = "exit status " ++ toString code := by
  rw [describeBy, h]

theorem describeBy_of_signal? {signal : Nat} (h : s.signal? = some signal) :
    s.describeBy name = "terminated by " ++ name signal := by
  rw [describeBy, exitCode?_of_signal? h, h]

/-- Two texts with beginnings that part ways are not the same. -/
theorem append_ne_append {a b : String} (h : ¬ a.toList <+: b.toList)
    (h' : ¬ b.toList <+: a.toList) (x y : String) : a ++ x ≠ b ++ y := by
  intro heq
  have hlist := congrArg String.toList heq
  rw [String.toList_append, String.toList_append] at hlist
  have hb : b.toList <+: a.toList ++ x.toList := hlist ▸ List.prefix_append b.toList y.toList
  obtain hp | hp := List.prefix_or_prefix_of_prefix (List.prefix_append a.toList x.toList) hb
  · exact h hp
  · exact h' hp

theorem toString_injective : Function.Injective (toString : Nat → String) := by
  intro n m h
  have hvalue := congrArg (fun text : String => Nat.ofDigitChars 10 text.toList 0) h
  simpa only [Nat.toString_eq_repr, Nat.toList_repr, Nat.ofDigitChars_ten_toDigits] using hvalue

/-- A signal has the text of its row, or a number behind one of two beginnings. -/
theorem signalText_forms (signal : Nat) :
    (∃ symbol, (signal, symbol, signalText signal) ∈ signals) ∨
      (34 ≤ signal ∧ signalText signal = "Real-time signal " ++ toString (signal - 34)) ∨
      signalText signal = "Unknown signal " ++ toString signal := by
  rw [signalText]
  cases hrow : signals.lookup signal with
  | some row =>
    obtain ⟨symbol, text⟩ := row
    obtain ⟨before, after, hsignals, -⟩ := List.lookup_eq_some_iff.1 hrow
    exact .inl ⟨symbol, hsignals ▸ List.mem_append_right _ List.mem_cons_self⟩
  | none =>
    by_cases hrange : 34 ≤ signal ∧ signal ≤ 64
    · exact .inr (.inl ⟨hrange.1, if_pos hrange⟩)
    · exact .inr (.inr (if_neg hrange))

theorem nodup_signal_texts : (signals.map (·.2.2)).Nodup := by decide +kernel

/-- No row has a text that begins as those of the other signals do. -/
theorem row_ne_numbered {row : Nat × String × String} (h : row ∈ signals) (x : String) :
    row.2.2 ≠ "Real-time signal " ++ x ∧ row.2.2 ≠ "Unknown signal " ++ x := by
  have hall : ∀ row ∈ signals, ∀ start ∈ ["Real-time signal ", "Unknown signal "],
      ¬ row.2.2.toList <+: start.toList ∧ ¬ start.toList <+: row.2.2.toList := by decide +kernel
  have hne : ∀ start ∈ ["Real-time signal ", "Unknown signal "], row.2.2 ≠ start ++ x := by
    intro start hstart heq
    obtain ⟨hp, hp'⟩ := hall row h start hstart
    exact append_ne_append hp hp' "" x (String.append_empty.trans heq)
  exact ⟨hne _ List.mem_cons_self, hne _ (List.mem_cons_of_mem _ List.mem_cons_self)⟩

theorem numbered_ne (x y : String) : "Real-time signal " ++ x ≠ "Unknown signal " ++ y :=
  append_ne_append (by decide +kernel) (by decide +kernel) x y

/-- Signals that are not the same have texts that are not the same. -/
theorem signalText_injective : Function.Injective signalText := by
  intro m n h
  -- Texts of one form differ as their rows or numbers do, and texts of two forms at the beginning.
  obtain ⟨symbol, hm⟩ | ⟨hle, hm⟩ | hm := signalText_forms m <;>
    obtain ⟨symbol', hn⟩ | ⟨hle', hn⟩ | hn := signalText_forms n
  · have hrow := List.inj_on_of_nodup_map nodup_signal_texts hm hn h
    exact congrArg (·.1) hrow
  · exact absurd (h.trans hn) (row_ne_numbered hm _).1
  · exact absurd (h.trans hn) (row_ne_numbered hm _).2
  · exact absurd (h.symm.trans hm) (row_ne_numbered hn _).1
  · rw [hm, hn, String.append_right_inj] at h
    have := toString_injective h
    omega
  · exact absurd (hm.symm.trans (h.trans hn)) (numbered_ne _ _)
  · exact absurd (h.symm.trans hm) (row_ne_numbered hn _).2
  · exact absurd (hn.symm.trans (h.symm.trans hm)) (numbered_ne _ _)
  · rw [hm, hn, String.append_right_inj] at h
    exact toString_injective h

/-- Where names tell signals apart, two children that have ended are described alike just when they
have the same code or the same signal. -/
theorem describeBy_eq_iff (hname : Set.InjOn name (Set.Icc 1 126)) (hs : s.HasEnded)
    (ht : t.HasEnded) :
    s.describeBy name = t.describeBy name ↔
      (∃ code, s.exitCode? = some code ∧ t.exitCode? = some code) ∨
        ∃ signal, s.signal? = some signal ∧ t.signal? = some signal := by
  have hparted (x y : String) : "exit status " ++ x ≠ "terminated by " ++ y :=
    append_ne_append (by decide +kernel) (by decide +kernel) x y
  constructor
  · intro h
    obtain ⟨code, hcode⟩ | ⟨signal, hsignal⟩ := hs.code_or_signal <;>
      obtain ⟨code', hcode'⟩ | ⟨signal', hsignal'⟩ := ht.code_or_signal
    · rw [describeBy_of_exitCode? hcode, describeBy_of_exitCode? hcode',
        String.append_right_inj] at h
      obtain rfl := toString_injective h
      exact .inl ⟨code, hcode, hcode'⟩
    · rw [describeBy_of_exitCode? hcode, describeBy_of_signal? hsignal'] at h
      exact absurd h (hparted _ _)
    · rw [describeBy_of_signal? hsignal, describeBy_of_exitCode? hcode'] at h
      exact absurd h.symm (hparted _ _)
    · rw [describeBy_of_signal? hsignal, describeBy_of_signal? hsignal',
        String.append_right_inj] at h
      obtain rfl := hname (signal?_mem_Icc hsignal) (signal?_mem_Icc hsignal') h
      exact .inr ⟨signal, hsignal, hsignal'⟩
  · rintro (⟨code, hcode, hcode'⟩ | ⟨signal, hsignal, hsignal'⟩)
    · rw [describeBy_of_exitCode? hcode, describeBy_of_exitCode? hcode']
    · rw [describeBy_of_signal? hsignal, describeBy_of_signal? hsignal']

/-- The text that a status has of its own. -/
def ownText (s : WaitStatus) : String :=
  match s.exitCode?, s.signal? with
  | some code, _ => "exit status: " ++ toString code
  | none, some signal =>
    "signal: " ++ (stopText signal ++ if s.raw &&& 0x80 = 0 then "" else " (core dumped)")
  | none, none => s.otherText

/-- A status is described in its own words when there is nothing else to say, and only then. -/
theorem describeBy_eq_ownText_iff :
    s.describeBy name = s.ownText ↔ s.exitCode? = none ∧ s.signal? = none := by
  rw [describeBy, ownText]
  cases s.exitCode? with
  | some code =>
    have hne : "exit status " ++ toString code ≠ "exit status: " ++ toString code :=
      append_ne_append (by decide +kernel) (by decide +kernel) _ _
    simp only [hne, reduceCtorEq, false_and]
  | none =>
  cases s.signal? with
  | some signal =>
    have hne (rest : String) : "terminated by " ++ name signal ≠ "signal: " ++ rest :=
      append_ne_append (by decide +kernel) (by decide +kernel) _ rest
    simp only [hne, reduceCtorEq, and_false]
  | none => simp only [and_self]

theorem exitCode?_of_success (h : s.success = true) : s.exitCode? = some 0 := by
  rw [success, decide_eq_true_iff] at h
  rw [exitCode?, low, high, h]
  rfl

/-- Every word of 32 bits shows one state, and is read and described by it. It has a code or a
signal, not both, unless its child has not ended; then it is described in its own words, and only
then. Nothing that is known of a signal rests on the bit of a core. Where names tell signals apart,
two children that have ended are described alike just when they have the same code or the same
signal; and the names in use do. -/
theorem describe_reads_word (name : Nat → String) (s : WaitStatus) :
    (∃! c, s.Shows c) ∧
    (∀ c, s.Shows c →
      s.exitCode? = c.exitCode? ∧ s.signal? = c.signal? ∧ s.describeBy name = c.text name) ∧
    (∀ code, s.exitCode? = some code →
      s.signal? = none ∧ code ∈ Set.Icc 0 255 ∧
        s.describeBy name = "exit status " ++ toString code) ∧
    (∀ signal, s.signal? = some signal →
      s.exitCode? = none ∧ signal ∈ Set.Icc 1 126 ∧
        s.describeBy name = "terminated by " ++ name signal) ∧
    (s.describeBy name = s.ownText ↔ s.exitCode? = none ∧ s.signal? = none) ∧
    (s.exitCode? = none ∧ s.signal? = none ↔
      (∃ signal, s.Shows (.stopped signal)) ∨ s.Shows .continued ∨
        s.Shows (.unrecognised s.raw)) ∧
    (s.exitCode? = none ∧ s.signal? = none ↔ ¬ s.HasEnded) ∧
    (∀ e : ChildEnd, e.status = s → s.Shows e.state ∧ s.HasEnded) ∧
    (s.success = true → s.exitCode? = some 0) ∧
    (∀ t : WaitStatus, t.raw ||| 0x80 = s.raw ||| 0x80 → s.signal?.isSome →
      t.exitCode? = s.exitCode? ∧ t.signal? = s.signal? ∧
        t.describeBy name = s.describeBy name) ∧
    (Set.InjOn name (Set.Icc 1 126) → ∀ t : WaitStatus, s.HasEnded → t.HasEnded →
      (s.describeBy name = t.describeBy name ↔
        (∃ code, s.exitCode? = some code ∧ t.exitCode? = some code) ∨
          ∃ signal, s.signal? = some signal ∧ t.signal? = some signal)) ∧
    s.describe = s.describeBy signalText ∧ Function.Injective signalText := by
  refine ⟨⟨s.state, shows_iff.2 rfl, fun c h => (shows_iff.1 h).symm⟩, ?_, ?_, ?_,
    describeBy_eq_ownText_iff, neither_iff.trans not_hasEnded_iff, neither_iff, ?_,
    exitCode?_of_success, ?_, fun hname t => describeBy_eq_iff hname,
    (describeBy_signalText s).symm, signalText_injective⟩
  · intro c h
    rw [← shows_iff.1 h, exitCode?_state, signal?_state]
    exact ⟨rfl, rfl, describeBy_eq_text⟩
  · intro code h
    exact ⟨signal?_of_exitCode? h, ⟨Nat.zero_le _, exitCode?_le h⟩, describeBy_of_exitCode? h⟩
  · intro signal h
    exact ⟨exitCode?_of_signal? h, signal?_mem_Icc h, describeBy_of_signal? h⟩
  · rintro e rfl
    exact ⟨shows_iff.2 (state_status e), hasEnded_status e⟩
  · intro t h hsome
    obtain ⟨signal, hsignal⟩ := Option.isSome_iff_exists.1 hsome
    have hstate := state_eq_of_core h hsignal
    rw [← exitCode?_state t, ← signal?_state t, describeBy_eq_text, hstate, exitCode?_state,
      signal?_state, ← describeBy_eq_text]
    exact ⟨rfl, rfl, rfl⟩

example : describe ⟨0x8B⟩ = "terminated by Segmentation fault" ∧
    describe ⟨0x137F⟩ = "stopped (not terminated) by signal: 19 (SIGSTOP)" ∧
    describe ⟨0x80FF⟩ = "unrecognised wait status: 33023 0x80ff" := by
  decide +kernel

end WaitStatus

end LineShell
