import LineShell.Proofs.WrittenSettings
import LineShell.Session

/-!
# Settings after calls

Settings are kept in one place, and a call assigns a text to a key there. Whatever calls are made on
the defaults, accepted or refused, both limits are at least 2. So the end mark that each of them
counts is always there to be taken off, and nothing that is bounded by a limit has to make do with a
bound of its own.
-/

namespace LineShell

/-! ## Limits -/

namespace Limit

/-- There is room for the end mark and for something before it. -/
def Fits (n : Nat) : Prop := 2 ≤ n ∧ n ≤ greatest

theorem readDigits_le {digits : List Char} {sofar n : Nat} (h : readDigits sofar digits = .ok n)
    (hs : sofar ≤ greatest) : n ≤ greatest := by
  induction digits generalizing sofar with
  | nil =>
    cases h
    exact hs
  | cons c digits ih =>
    rw [readDigits] at h
    split at h
    · cases h
    · split at h
      · cases h
      · next hle => exact ih h (Nat.not_lt.1 hle)

theorem readNumber_le {cs : List Char} {n : Nat} (h : readNumber cs = .ok n) : n ≤ greatest := by
  unfold readNumber at h
  split at h
  · cases h
  · cases h
  · exact readDigits_le h (Nat.zero_le _)
  · exact readDigits_le h (Nat.zero_le _)

/-- A text that is read as a limit says one that fits. -/
theorem fits_of_parse {text : String} {n : Nat} (h : parse text = .ok n) : Fits n := by
  unfold parse at h
  split at h
  · cases h
  · next hn =>
    split at h
    · cases h
    · next htwo =>
      cases h
      exact ⟨Nat.not_lt.1 htwo, readNumber_le hn⟩

theorem Fits.of_takes {text? : Option String} {before after : Nat} (hb : Fits before)
    (h : Takes (fun text => (parse text).toOption) text? before after) : Fits after := by
  cases text? with
  | none =>
    obtain rfl : before = after := Option.some.inj h
    exact hb
  | some text =>
    cases hp : parse text with
    | error fault => simp [Takes, hp, Except.toOption] at h
    | ok n =>
      obtain rfl : n = after := by simpa [Takes, hp, Except.toOption] using h
      exact fits_of_parse hp

theorem chunkLimit_of_fits {n : Nat} (h : Fits n) : chunkLimit n = n - 1 := by
  have htwo := h.1
  unfold chunkLimit
  omega

theorem capacity_of_fits {n : Nat} (h : Fits n) (mode : SplitMode) :
    (Tokenizer.mk n mode).capacity = n - 1 := by
  have htwo := h.1
  show max (n - 1) 1 = n - 1
  omega

end Limit

namespace Settings

/-! ## One call -/

/-- Both limits fit. -/
structure HasRoom (s : Settings) : Prop where
  maxLine : Limit.Fits s.maxLine
  maxArgs : Limit.Fits s.maxArgs

theorem hasRoom_default : HasRoom {} :=
  ⟨⟨by decide, by decide⟩, ⟨by decide, by decide⟩⟩

/-- Assigns a text to what a name stands for, where the settings are kept: the answer, and what is
there afterwards. A text is read before anything is written, and a text that cannot be read is the
end of the call. -/
def assignInPlace (key value : String) : ExceptT SettingError (StateM Settings) Unit := do
  let invalid := SettingError.invalidValue key value
  match SettingKey.ofName? key with
  | none => throw (.unknownKey key)
  | some .prompt => modify fun s => { s with prompt := value }
  | some .maxLine =>
    let n ← (Limit.parse value).mapError fun fault => invalid (.limit fault)
    modify fun s => { s with maxLine := n }
  | some .maxArgs =>
    let n ← (Limit.parse value).mapError fun fault => invalid (.limit fault)
    modify fun s => { s with maxArgs := n }
  | some .split =>
    let mode ← (SplitMode.parse value).mapError invalid
    modify fun s => { s with split := mode }
  | some .editor =>
    let mode ← (EditorMode.parse value).mapError invalid
    modify fun s => { s with editor := mode }

/-- What a call answers and leaves. -/
def call (key value : String) (s : Settings) : Except SettingError Unit × Settings :=
  (assignInPlace key value).run.run s

/-- A call in place answers as `set` does, and leaves what `trySet` gives. -/
theorem call_eq (key value : String) (s : Settings) :
    call key value s = ((s.set key value).map fun _ => (), s.trySet key value) := by
  unfold call assignInPlace trySet set
  cases SettingKey.ofName? key with
  | none => rfl
  | some k =>
    cases k with
    | prompt => rfl
    | maxLine => cases hp : Limit.parse value <;> simp [assign, hp] <;> rfl
    | maxArgs => cases hp : Limit.parse value <;> simp [assign, hp] <;> rfl
    | split => cases hp : SplitMode.parse value <;> simp [assign, hp] <;> rfl
    | editor => cases hp : EditorMode.parse value <;> simp [assign, hp] <;> rfl

/-- Why a call is refused. -/
inductive Refuses (key value : String) : SettingError → Prop where
  | unknownKey (h : SettingKey.ofName? key = none) : Refuses key value (.unknownKey key)
  | invalidValue {k : SettingKey} {fault : ValueFault} (hk : SettingKey.ofName? key = some k)
      (hf : k.fault? value = some fault) : Refuses key value (.invalidValue key value fault)

/-- What an accepted call does: the field that its key names has the value, the others are as they
were. -/
structure Assigns (key value : String) (before after : Settings) (k : SettingKey) : Prop where
  named : SettingKey.ofName? key = some k
  accepted : k.fault? value = none
  field : k.Holds (some value) before after
  others : ∀ j : SettingKey, j ≠ k → j.Holds none before after

/-- A call is refused and changes nothing, or it assigns its value to one field. -/
theorem call_cases (key value : String) (s : Settings) :
    (∃ e, Refuses key value e ∧ call key value s = (.error e, s)) ∨
      ∃ k changed, Assigns key value s changed k ∧ call key value s = (.ok (), changed) := by
  rw [call_eq]
  cases hk : SettingKey.ofName? key with
  | none =>
    have hset : s.set key value = .error (.unknownKey key) := by simp [set, hk]
    refine .inl ⟨_, .unknownKey hk, ?_⟩
    simp [trySet, hset, Except.map]
  | some k =>
    cases hf : k.fault? value with
    | some fault =>
      have hset : s.set key value = .error (.invalidValue key value fault) := by
        simp [set, hk, s.assign_of_fault hf, Except.mapError]
      refine .inl ⟨_, .invalidValue hk hf, ?_⟩
      simp [trySet, hset, Except.map]
    | none =>
      obtain ⟨changed, ha, hholds⟩ := s.assign_of_no_fault hf
      have hset : s.set key value = .ok changed := by simp [set, hk, ha, Except.mapError]
      refine .inr ⟨k, changed, ⟨hk, hf, by simpa using hholds k, fun j hj => ?_⟩, ?_⟩
      · have hname : k.name ≠ j.name := fun he => hj (SettingKey.name_injective he).symm
        simpa [hname] using hholds j
      · simp [trySet, hset, Except.map]

/-- No call takes the room away. -/
theorem HasRoom.call {s : Settings} (h : s.HasRoom) (key value : String) :
    (call key value s).2.HasRoom := by
  obtain ⟨e, -, hcall⟩ | ⟨k, changed, hassigns, hcall⟩ := call_cases key value s
  · rw [hcall]
    exact h
  · have hfield : ∀ j : SettingKey, ∃ text?, j.Holds text? s changed := fun j => by
      by_cases hj : j = k
      · exact ⟨some value, hj ▸ hassigns.field⟩
      · exact ⟨none, hassigns.others j hj⟩
    obtain ⟨_, hline⟩ := hfield .maxLine
    obtain ⟨_, hargs⟩ := hfield .maxArgs
    rw [hcall]
    exact ⟨h.maxLine.of_takes hline, h.maxArgs.of_takes hargs⟩

/-! ## Many calls -/

/-- What calls in a row leave, whatever they answer. -/
def afterCalls (s : Settings) (calls : List (String × String)) : Settings :=
  calls.foldl (fun s assignment => (call assignment.1 assignment.2 s).2) s

theorem HasRoom.afterCalls {s : Settings} (h : s.HasRoom) (calls : List (String × String)) :
    (s.afterCalls calls).HasRoom := by
  induction calls generalizing s with
  | nil => exact h
  | cons assignment calls ih => exact ih (h.call assignment.1 assignment.2)

end Settings

namespace SettingsFile

/-- The call that a line asks for. -/
def callOf? (line : List Char) : Option (String × String) :=
  match Entry.ofLine line with
  | .setting key value => some (String.ofList key, String.ofList value)
  | _ => none

/-- Reading lines makes the calls that they ask for. -/
theorem afterCalls_of_readLines {number : Nat} {s changed : Settings} {lines : List (List Char)}
    (h : (readLines number s lines).result = .ok changed) :
    changed = s.afterCalls (lines.filterMap callOf?) := by
  induction lines generalizing number s with
  | nil =>
    cases h
    rfl
  | cons line lines ih =>
    rw [readLines] at h
    cases hl : Entry.ofLine line with
    | nothing =>
      simp only [hl] at h
      simpa [callOf?, hl] using ih h
    | malformed =>
      simp only [hl] at h
      simpa [callOf?, hl] using ih h
    | setting key value =>
      have hcall : (Settings.call (String.ofList key) (String.ofList value) s).2 =
          s.trySet (String.ofList key) (String.ofList value) := by
        rw [Settings.call_eq]
      simp only [hl] at h
      simp only [List.filterMap_cons, callOf?, hl, Settings.afterCalls, List.foldl_cons, hcall,
        Settings.trySet]
      split at h
      · next hset =>
        rw [hset]
        exact ih h
      · next hset =>
        rw [hset]
        exact ih h
      · cases h

/-- Whatever settings are loaded, calls on the defaults lead to them. -/
theorem afterCalls_of_load {location : Location} {find : String → Found} {s : Settings}
    (h : (load location find).result = .ok s) : ∃ calls, s = Settings.afterCalls {} calls := by
  unfold load at h
  split at h
  · cases h
    exact ⟨[], rfl⟩
  · split at h
    · dsimp only at h
      split at h
      · cases h
      · cases h
        exact ⟨[], rfl⟩
    · split at h
      · cases h
      · split at h
        · cases h
        · exact ⟨_, afterCalls_of_readLines h⟩

end SettingsFile

namespace Settings

variable {Dir World Source : Type}

/-- Settings that calls on the defaults lead to, refused calls among them, or that are loaded from
wherever settings are found. On them a call is refused for its key or its value and changes nothing,
or it changes the field that its key names and no other. Both limits are at least 2. So the tokens
kept of a line, the bytes of a chunk and the bytes kept of an edited line are a limit less its end
mark, and no bound that is set beside them ever acts. -/
theorem room_after_calls {s : Settings}
    (h : (∃ calls, s = afterCalls {} calls) ∨
      ∃ location find, (SettingsFile.load location find).result = .ok s)
    (host : Host Dir World) (source : LineSource Source World) :
    (∀ key value,
      call key value s = ((s.set key value).map fun _ => (), s.trySet key value) ∧
      ((∃ e, Refuses key value e ∧ call key value s = (.error e, s)) ∨
        ∃ k changed, Assigns key value s changed k ∧ call key value s = (.ok (), changed))) ∧
    (2 ≤ s.maxLine ∧ s.maxLine < UInt64.size) ∧ (2 ≤ s.maxArgs ∧ s.maxArgs < UInt64.size) ∧
    (Session.Frame.ofSettings host source s).tokenizer.capacity + 1 = s.maxArgs ∧
    ∃ room, 1 ≤ room ∧ room + 1 = s.maxLine ∧ chunkLimit s.maxLine = room ∧
      (∀ (bytes : ByteSource Source World) prompt place world,
        (LineSource.buffered s.maxLine bytes).read prompt place world =
          ⟨[.prompted prompt], ReadOutcome.ofAttempt (bytes.next room place world).1,
            (bytes.next room place world).2.1, (bytes.next room place world).2.2⟩) ∧
      ∀ text, (cutLine s.maxLine text).2 = Text.fitting room text := by
  have hreached : ∃ calls, s = afterCalls {} calls := by
    obtain hcalls | ⟨location, find, hload⟩ := h
    · exact hcalls
    · exact SettingsFile.afterCalls_of_load hload
  have hroom : s.HasRoom := by
    obtain ⟨calls, rfl⟩ := hreached
    exact hasRoom_default.afterCalls calls
  have hline := hroom.maxLine
  have hargs := hroom.maxArgs
  have hchunk := Limit.chunkLimit_of_fits hline
  have hcapacity := Limit.capacity_of_fits hargs s.split
  have hsize : Limit.greatest + 1 = UInt64.size := rfl
  simp only [Limit.Fits] at hline hargs
  refine ⟨fun key value => ⟨call_eq key value s, call_cases key value s⟩, by omega, by omega, ?_,
    s.maxLine - 1, by omega, by omega, hchunk,
    fun bytes prompt place world => ?_, fun text => ?_⟩
  · rw [Session.Frame.ofSettings, hcapacity]
    omega
  · simp only [LineSource.buffered, LineSource.readChunk, hchunk]
  · unfold cutLine
    split
    · next hfits => exact (Text.fitting_of_byteLength_le hfits).symm
    · rfl

/-- A limit that is too small, a mode that is none and an unknown key among calls that are accepted:
one word of a line is kept, one byte at a time is read, and the small limit is refused once more. -/
theorem room_after_calls_refused :
    let s : Settings := { maxLine := 2, maxArgs := 2 }
    (∃ calls, s = afterCalls {} calls) ∧
      (∃ e, call "max_args" "+1" s = (.error e, s)) ∧
      (Tokenizer.mk 2 .whitespace).capacity = 1 ∧ chunkLimit 2 = 1 := by
  intro s
  have hcalls : ∃ calls, s = afterCalls {} calls :=
    ⟨[("max_line", "002"), ("max_args", "1"), ("split", "tab"), ("colour", "red"),
      ("max_args", "+2")], by decide +kernel⟩
  let host : Host Unit Unit :=
    ⟨fun world _ _ => (.error .noSuchFile, world), fun world _ _ => (.error .noSuchFile, world)⟩
  obtain ⟨hcall, -, -, hcapacity, room, -, hroom, hchunk, -⟩ :=
    room_after_calls (.inl hcalls) host (Script.lines Unit)
  refine ⟨hcalls, ?_, Nat.succ.inj hcapacity, hchunk.trans (Nat.succ.inj hroom)⟩
  obtain ⟨-, ⟨e, -, he⟩ | ⟨k, changed, hassigns, -⟩⟩ := hcall "max_args" "+1"
  · exact ⟨e, he⟩
  · have hk := hassigns.named
    obtain rfl : SettingKey.maxArgs = k := Option.some.inj hk
    exact absurd hassigns.accepted (by decide +kernel)

end Settings

end LineShell
