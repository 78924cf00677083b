import LineShell.Proofs.Encoding
import LineShell.Proofs.Entries

/-!
# The settings that a file gives

The first value that its key does not accept makes the whole file an error. Without one, each key
has the value of the last line that sets it, or its default. Lines that name no key are warned of,
up to the line that is the error.
-/

namespace LineShell

/-! ## Values and keys -/

/-- A text is read as a value if there is one; else the value stays as it was. -/
def Takes {α : Type} (read : String → Option α) (text? : Option String) (before after : α) : Prop :=
  text?.elim (some before) read = some after

instance {α : Type} [DecidableEq α] (read : String → Option α) (text? : Option String)
    (before after : α) : Decidable (Takes read text? before after) :=
  inferInstanceAs (Decidable (_ = _))

theorem Takes.refl {α : Type} (read : String → Option α) (a : α) : Takes read none a a := rfl

theorem Takes.unique {α : Type} {read : String → Option α} {text? : Option String} {before a b : α}
    (ha : Takes read text? before a) (hb : Takes read text? before b) : a = b :=
  Option.some.inj (ha.symm.trans hb)

/-- A later text replaces an earlier one. -/
theorem Takes.trans {α : Type} {read : String → Option α} {a b c : α} {first second : Option String}
    (h : Takes read first a b) (h' : Takes read second b c) :
    Takes read (second.or first) a c := by
  cases second with
  | some text => exact h'
  | none =>
    obtain rfl : b = c := Option.some.inj h'
    exact h

namespace SettingKey

/-- What keeps a text from being the value of a key. -/
def fault? (text : String) : SettingKey → Option ValueFault
  | .prompt => none
  | .maxLine | .maxArgs =>
    match Limit.parse text with
    | .ok _ => none
    | .error fault => some (.limit fault)
  | .split => if (SplitMode.ofName? text).isNone then some (.unknownSplitMode text) else none
  | .editor => if (EditorMode.ofName? text).isNone then some (.unknownEditorMode text) else none

/-- A key has the value of a text if there is one, and else the value from before. -/
def Holds (text? : Option String) (before after : Settings) : SettingKey → Prop
  | .prompt => Takes some text? before.prompt after.prompt
  | .maxLine => Takes (fun text => (Limit.parse text).toOption) text? before.maxLine after.maxLine
  | .maxArgs => Takes (fun text => (Limit.parse text).toOption) text? before.maxArgs after.maxArgs
  | .split => Takes SplitMode.ofName? text? before.split after.split
  | .editor => Takes EditorMode.ofName? text? before.editor after.editor

instance (text? : Option String) (before after : Settings) (k : SettingKey) :
    Decidable (k.Holds text? before after) :=
  match k with
  | .prompt | .maxLine | .maxArgs | .split | .editor => inferInstanceAs (Decidable (Takes _ _ _ _))

theorem Holds.refl (s : Settings) (k : SettingKey) : k.Holds none s s := by
  cases k <;> exact Takes.refl _ _

theorem Holds.trans {k : SettingKey} {s s' s'' : Settings} {first second : Option String}
    (h : k.Holds first s s') (h' : k.Holds second s' s'') : k.Holds (second.or first) s s'' := by
  cases k <;> exact Takes.trans h h'

/-- The texts of all keys decide about the settings. -/
theorem Holds.unique {text? : SettingKey → Option String} {before s s' : Settings}
    (h : ∀ k : SettingKey, k.Holds (text? k) before s)
    (h' : ∀ k : SettingKey, k.Holds (text? k) before s') : s = s' := by
  obtain ⟨prompt, maxLine, maxArgs, split, editor⟩ := s
  obtain rfl : prompt = s'.prompt := Takes.unique (h .prompt) (h' .prompt)
  obtain rfl : maxLine = s'.maxLine := Takes.unique (h .maxLine) (h' .maxLine)
  obtain rfl : maxArgs = s'.maxArgs := Takes.unique (h .maxArgs) (h' .maxArgs)
  obtain rfl : split = s'.split := Takes.unique (h .split) (h' .split)
  obtain rfl : editor = s'.editor := Takes.unique (h .editor) (h' .editor)
  rfl

theorem name_of_ofName? {text : String} {k : SettingKey} (h : ofName? text = some k) :
    k.name = text := by
  unfold ofName? at h
  split at h <;> cases h <;> rfl

end SettingKey

namespace Settings

theorem assign_of_fault (s : Settings) {value : String} {k : SettingKey} {fault : ValueFault}
    (h : k.fault? value = some fault) : s.assign value k = .error fault := by
  cases k with
  | prompt => cases h
  | maxLine | maxArgs =>
    cases hp : Limit.parse value with
    | ok n => simp [SettingKey.fault?, hp] at h
    | error f =>
      obtain rfl : ValueFault.limit f = fault := by simpa [SettingKey.fault?, hp] using h
      simp [assign, hp, Except.mapError, Except.map]
  | split =>
    cases hm : SplitMode.ofName? value with
    | some mode => simp [SettingKey.fault?, hm] at h
    | none =>
      obtain rfl : ValueFault.unknownSplitMode value = fault := by
        simpa [SettingKey.fault?, hm] using h
      simp [assign, SplitMode.parse, hm, Except.map]
  | editor =>
    cases hm : EditorMode.ofName? value with
    | some mode => simp [SettingKey.fault?, hm] at h
    | none =>
      obtain rfl : ValueFault.unknownEditorMode value = fault := by
        simpa [SettingKey.fault?, hm] using h
      simp [assign, EditorMode.parse, hm, Except.map]

/-- An accepted value is the value of its key, and no other key changes. -/
theorem assign_of_no_fault (s : Settings) {value : String} {k : SettingKey}
    (h : k.fault? value = none) :
    ∃ changed, s.assign value k = .ok changed ∧
      ∀ j : SettingKey, j.Holds (if k.name = j.name then some value else none) s changed := by
  cases k with
  | prompt => exact ⟨_, rfl, fun j => by cases j <;> rfl⟩
  | maxLine | maxArgs =>
    cases hp : Limit.parse value with
    | error f => simp [SettingKey.fault?, hp] at h
    | ok n =>
      refine ⟨_, by rw [assign, hp]; rfl, fun j => ?_⟩
      cases j <;> simp [SettingKey.Holds, SettingKey.name, Takes, hp, Except.toOption]
  | split =>
    cases hm : SplitMode.ofName? value with
    | none => simp [SettingKey.fault?, hm] at h
    | some mode =>
      refine ⟨{ s with split := mode }, by simp [assign, SplitMode.parse, hm, Except.map], ?_⟩
      intro j
      cases j <;> simp [SettingKey.Holds, SettingKey.name, Takes, hm]
  | editor =>
    cases hm : EditorMode.ofName? value with
    | none => simp [SettingKey.fault?, hm] at h
    | some mode =>
      refine ⟨{ s with editor := mode }, by simp [assign, EditorMode.parse, hm, Except.map], ?_⟩
      intro j
      cases j <;> simp [SettingKey.Holds, SettingKey.name, Takes, hm]

end Settings

/-! ## Lines -/

namespace SettingsFile

/-- The value that a line gives a key. -/
def valueFor? (k : SettingKey) (line : List Char) : Option String :=
  match Entry.ofLine line with
  | .setting key value =>
    if String.ofList key = k.name then some (String.ofList value) else none
  | _ => none

/-- The error that a line is: it gives a key a value that the key does not accept. -/
def refusal? (line : List Char) : Option ConfigError :=
  match Entry.ofLine line with
  | .setting key value =>
    (SettingKey.ofName? (String.ofList key)).bind fun k =>
      (k.fault? (String.ofList value)).map fun fault =>
        .invalidValue k.name (String.ofList value) fault.message
  | _ => none

/-- What is said of a line that is passed over though it is neither blank nor a comment. -/
def remark? (line : List Char) : Option String :=
  match Entry.ofLine line with
  | .nothing => none
  | .malformed => some "expected key = value"
  | .setting key _ =>
    if (SettingKey.ofName? (String.ofList key)).isNone then
      some ("unknown key " ++ String.ofList key)
    else none

/-- The warnings of some lines, the first of which has a number. -/
def warnings (number : Nat) (lines : List (List Char)) : List Log.Record :=
  (lines.zipIdx number).filterMap fun (line, n) =>
    (remark? line).map fun remark =>
      Log.warn ("config line " ++ toString n ++ ": " ++ remark)

/-- A line that is an error ends the reading. -/
theorem readLines_of_refusal {line : List Char} {e : ConfigError} (h : refusal? line = some e)
    (number : Nat) (s : Settings) (rest : List (List Char)) :
    readLines number s (line :: rest) = ⟨[], .error e⟩ := by
  unfold refusal? at h
  rw [readLines]
  cases hl : Entry.ofLine line with
  | nothing => simp [hl] at h
  | malformed => simp [hl] at h
  | setting key value =>
    simp only [hl] at h
    obtain ⟨k, hk, hf⟩ := Option.bind_eq_some_iff.1 h
    obtain ⟨fault, hfault, rfl⟩ := Option.map_eq_some_iff.1 hf
    simp [Settings.set, hk, s.assign_of_fault hfault, Except.mapError, ConfigError.ofSetting,
      SettingKey.name_of_ofName? hk]

theorem warnings_singleton (number : Nat) (line : List Char) :
    warnings number [line] = ((remark? line).map fun remark =>
      Log.warn ("config line " ++ toString number ++ ": " ++ remark)).toList := by
  cases h : remark? line <;> simp [warnings, h]

/-- Any other line sets what it sets, and is said of what is said of it, before the rest. -/
theorem readLines_of_no_refusal {line : List Char} (h : refusal? line = none) (s : Settings) :
    ∃ changed, (∀ k : SettingKey, k.Holds (valueFor? k line) s changed) ∧
      ∀ number rest, readLines number s (line :: rest) =
        ⟨warnings number [line] ++ (readLines (number + 1) changed rest).records,
          (readLines (number + 1) changed rest).result⟩ := by
  simp only [warnings_singleton]
  cases hl : Entry.ofLine line with
  | nothing =>
    refine ⟨s, fun k => ?_, fun number rest => ?_⟩
    · simpa [valueFor?, hl] using SettingKey.Holds.refl s k
    · simp [readLines, remark?, hl]
  | malformed =>
    refine ⟨s, fun k => ?_, fun number rest => ?_⟩
    · simpa [valueFor?, hl] using SettingKey.Holds.refl s k
    · simp [readLines, remark?, hl]
  | setting key value =>
    cases hk : SettingKey.ofName? (String.ofList key) with
    | none =>
      refine ⟨s, fun k => ?_, fun number rest => ?_⟩
      · have hne : String.ofList key ≠ k.name := by
          intro he
          rw [he, SettingKey.ofName?_name] at hk
          cases hk
        simpa [valueFor?, hl, hne] using SettingKey.Holds.refl s k
      · simp [readLines, remark?, hl, hk, Settings.set]
    | some k =>
      have hf : k.fault? (String.ofList value) = none := by simpa [refusal?, hl, hk] using h
      obtain ⟨changed, ha, hholds⟩ := s.assign_of_no_fault hf
      refine ⟨changed, fun j => ?_, fun number rest => ?_⟩
      · simpa [valueFor?, hl, SettingKey.name_of_ofName? hk] using hholds j
      · simp [readLines, remark?, hl, hk, Settings.set, ha, Except.mapError]

/-! ## Whole files -/

theorem warnings_append (number : Nat) (xs ys : List (List Char)) :
    warnings number (xs ++ ys) = warnings number xs ++ warnings (number + xs.length) ys := by
  simp [warnings, List.zipIdx_append]

/-- Lines none of which is an error: each key has the last value that one gives it. -/
theorem readLines_of_no_refusals {lines : List (List Char)}
    (h : ∀ line ∈ lines, refusal? line = none) (s : Settings) :
    ∃ changed, (∀ k : SettingKey, k.Holds (lines.filterMap (valueFor? k)).getLast? s changed) ∧
      ∀ number rest, readLines number s (lines ++ rest) =
        ⟨warnings number lines ++ (readLines (number + lines.length) changed rest).records,
          (readLines (number + lines.length) changed rest).result⟩ := by
  induction lines generalizing s with
  | nil => exact ⟨s, SettingKey.Holds.refl s, fun number rest => by simp [warnings]⟩
  | cons line lines ih =>
    obtain ⟨first, hfirst, hstep⟩ := readLines_of_no_refusal (h line (by simp)) s
    obtain ⟨last, hlast, hrest⟩ := ih (fun l hl => h l (by simp [hl])) first
    refine ⟨last, fun k => ?_, fun number rest => ?_⟩
    · have hk := (hfirst k).trans (hlast k)
      cases hv : valueFor? k line <;> simpa [hv, List.getLast?_cons] using hk
    · have hw := warnings_append number [line] lines
      rw [List.singleton_append, List.length_singleton] at hw
      rw [List.cons_append, hstep, hrest, hw, List.length_cons, Nat.add_right_comm]
      simp [Nat.add_assoc]

/-- The lines before the first error, and whether there is one. -/
theorem readLines_eq (number : Nat) (s : Settings) (lines : List (List Char)) :
    (readLines number s lines).records =
      warnings number (lines.takeWhile fun line => (refusal? line).isNone) ∧
    match lines.findSome? refusal? with
    | some e => (readLines number s lines).result = .error e
    | none => ∃ changed, (readLines number s lines).result = .ok changed ∧
        ∀ k : SettingKey, k.Holds (lines.filterMap (valueFor? k)).getLast? s changed := by
  cases hf : lines.findSome? refusal? with
  | none =>
    have hnone : ∀ line ∈ lines, refusal? line = none := by simpa using hf
    obtain ⟨changed, hholds, hread⟩ := readLines_of_no_refusals hnone s
    have hall := hread number []
    rw [List.append_nil] at hall
    rw [List.takeWhile_eq_self_iff.2 fun line hl => by simp [hnone line hl], hall]
    exact ⟨List.append_nil _, changed, rfl, hholds⟩
  | some e =>
    obtain ⟨before, line, after, rfl, hline, hbefore⟩ := List.findSome?_eq_some_iff.1 hf
    obtain ⟨changed, -, hread⟩ := readLines_of_no_refusals hbefore s
    rw [List.takeWhile_append_of_pos fun l hl => by simp [hbefore l hl], hread,
      readLines_of_refusal hline]
    simp [hline]

/-- A readable file at a location is read from its first line on, over the defaults. -/
theorem load_of_readable {path : String} {find : String → Found} {text : List Char}
    (h : find path = .file (.ok (Text.Utf8.encode text))) (required : Bool) :
    load { path := some path, required } find =
      ⟨Log.debug ("reading config from " ++ path) :: (readLines 1 {} (lines text)).records,
        (readLines 1 {} (lines text)).result⟩ := by
  simp [load, h, Text.Utf8.decode?_encode, read]

end SettingsFile

end LineShell
