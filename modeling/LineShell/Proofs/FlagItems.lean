import LineShell.Flags
import Mathlib.Data.List.Perm.Basic

/-!
# The items of a command line

Arguments fall into items: a flag that takes no value, spelled in its short or its long form, or
`config` with the argument behind it, whatever that is. Flags are read item by item, up to the first
argument that begins no item or a `config` with nothing behind it, and hold what the items up to
there set.
-/

namespace LineShell

/-! ## Keys and spellings -/

/-- The flags. -/
inductive FlagKey where
  | help
  | version
  | config
  | quiet
  | debug
  | noEditor
  deriving DecidableEq, Repr

/-- The two ways to spell a flag. -/
inductive FlagForm where
  | short
  | long
  deriving DecidableEq, Repr

namespace FlagKey

/-- The name under which a flag is looked up. -/
def name : FlagKey → String
  | .help => "help"
  | .version => "version"
  | .config => "config"
  | .quiet => "quiet"
  | .debug => "debug"
  | .noEditor => "no-editor"

/-- How a flag is spelled. -/
def spelled : FlagKey → FlagForm → String
  | .help, .short => "-h"
  | .help, .long => "--help"
  | .version, .short => "-v"
  | .version, .long => "--version"
  | .config, .short => "-c"
  | .config, .long => "--config"
  | .quiet, .short => "-q"
  | .quiet, .long => "--quiet"
  | .debug, .short => "-d"
  | .debug, .long => "--debug"
  | .noEditor, .short => "-n"
  | .noEditor, .long => "--no-editor"

theorem name_inj {key key' : FlagKey} : key.name = key'.name ↔ key = key' := by
  cases key <;> cases key' <;> decide

/-- No two flags share a spelling. -/
theorem spelled_inj {key key' : FlagKey} {form form' : FlagForm} :
    key.spelled form = key'.spelled form' ↔ key = key' ∧ form = form' := by
  cases key <;> cases form <;> cases key' <;> cases form' <;> decide

end FlagKey

/-! ## Tables -/

/-- A row of the table without what it has been set to. -/
def Flag.unset (flag : Flag) : Flag := { flag with value := none }

/-- The row of the table that belongs to a key. -/
structure Flag.IsRow (key : FlagKey) (flag : Flag) : Prop where
  name_eq : flag.name = key.name
  short_eq : flag.short = key.spelled .short
  long_eq : flag.long = key.spelled .long
  takesValue_eq : flag.takesValue = decide (key = .config)

instance (key : FlagKey) (flag : Flag) : Decidable (flag.IsRow key) :=
  decidable_of_iff (flag.name = key.name ∧ flag.short = key.spelled .short ∧
      flag.long = key.spelled .long ∧ flag.takesValue = decide (key = .config))
    ⟨fun ⟨hn, hs, hl, ht⟩ => ⟨hn, hs, hl, ht⟩, fun ⟨hn, hs, hl, ht⟩ => ⟨hn, hs, hl, ht⟩⟩

namespace Flag.IsRow

variable {key : FlagKey} {flag : Flag}

/-- A row is spelled as its key is, and in no other way. -/
theorem isSpelled_iff (h : flag.IsRow key) {arg : String} :
    flag.isSpelled arg = true ↔ ∃ form, arg = key.spelled form := by
  simp only [Flag.isSpelled, Bool.or_eq_true, beq_iff_eq, h.short_eq, h.long_eq]
  constructor
  · rintro (rfl | rfl)
    · exact ⟨.short, rfl⟩
    · exact ⟨.long, rfl⟩
  · rintro ⟨form, rfl⟩
    cases form
    · exact .inl rfl
    · exact .inr rfl

theorem isSpelled_spelled_iff (h : flag.IsRow key) {key' : FlagKey} {form : FlagForm} :
    flag.isSpelled (key'.spelled form) = true ↔ key' = key := by
  rw [h.isSpelled_iff]
  constructor
  · rintro ⟨form', he⟩
    exact (FlagKey.spelled_inj.1 he).1
  · rintro rfl
    exact ⟨form, rfl⟩

theorem name_beq_iff (h : flag.IsRow key) {key' : FlagKey} :
    (flag.name == key'.name) = true ↔ key' = key := by
  rw [beq_iff_eq, h.name_eq, FlagKey.name_inj, eq_comm]

theorem withValue (h : flag.IsRow key) (value : Option String) :
    ({ flag with value } : Flag).IsRow key := ⟨h.1, h.2, h.3, h.4⟩

end Flag.IsRow

namespace Flags

/-- A table of the flags, in any order and set to anything. -/
def IsTable (flags : Flags) : Prop := (flags.map Flag.unset).Perm initial

theorem isTable_initial : IsTable initial := List.Perm.refl _

/-- Each row belongs to a key. -/
theorem isRow_of_mem_initial : ∀ flag ∈ initial, ∃ key, flag.IsRow key := by
  unfold initial
  refine List.forall_mem_cons.2 ⟨⟨.help, rfl, rfl, rfl, rfl⟩, ?_⟩
  refine List.forall_mem_cons.2 ⟨⟨.version, rfl, rfl, rfl, rfl⟩, ?_⟩
  refine List.forall_mem_cons.2 ⟨⟨.config, rfl, rfl, rfl, rfl⟩, ?_⟩
  refine List.forall_mem_cons.2 ⟨⟨.quiet, rfl, rfl, rfl, rfl⟩, ?_⟩
  refine List.forall_mem_cons.2 ⟨⟨.debug, rfl, rfl, rfl, rfl⟩, ?_⟩
  exact List.forall_mem_singleton.2 ⟨.noEditor, rfl, rfl, rfl, rfl⟩

theorem exists_isRow_initial (key : FlagKey) : ∃ flag ∈ initial, flag.IsRow key := by
  cases key <;> decide

theorem isRow_unset_iff {flag : Flag} {key : FlagKey} : flag.unset.IsRow key ↔ flag.IsRow key :=
  ⟨fun h => h.withValue flag.value, fun h => h.withValue none⟩

section

variable {flags : Flags}

theorem IsTable.isRow_of_mem (h : flags.IsTable) : ∀ flag ∈ flags, ∃ key, flag.IsRow key := by
  intro flag hm
  obtain ⟨key, hrow⟩ :=
    isRow_of_mem_initial flag.unset (h.subset (List.mem_map_of_mem hm))
  exact ⟨key, isRow_unset_iff.1 hrow⟩

theorem IsTable.exists_isRow (h : flags.IsTable) (key : FlagKey) :
    ∃ flag ∈ flags, flag.IsRow key := by
  obtain ⟨row, hm, hrow⟩ := exists_isRow_initial key
  obtain ⟨flag, hflag, rfl⟩ := List.mem_map.1 (h.symm.subset hm)
  exact ⟨flag, hflag, isRow_unset_iff.1 hrow⟩

/-! ## Looking up and setting -/

/-- A spelling finds the row of its key. -/
theorem IsTable.spelledBy?_spelled (h : flags.IsTable) (key : FlagKey) (form : FlagForm) :
    ∃ flag, flags.spelledBy? (key.spelled form) = some flag ∧ flag.IsRow key := by
  obtain ⟨row, hm, hrow⟩ := h.exists_isRow key
  have hfound : (flags.spelledBy? (key.spelled form)).isSome = true :=
    List.find?_isSome.2 ⟨row, hm, hrow.isSpelled_spelled_iff.2 rfl⟩
  obtain ⟨flag, hflag⟩ := Option.isSome_iff_exists.1 hfound
  obtain ⟨key', hrow'⟩ := h.isRow_of_mem flag (List.mem_of_find?_eq_some hflag)
  have hspelled : flag.isSpelled (key.spelled form) = true :=
    (List.find?_eq_some_iff_append.1 hflag).1
  have hkey : key = key' := hrow'.isSpelled_spelled_iff.1 hspelled
  exact ⟨flag, hflag, hkey ▸ hrow'⟩

theorem IsTable.spelledBy?_eq_none (h : flags.IsTable) {arg : String}
    (hn : ∀ key form, arg ≠ FlagKey.spelled key form) : flags.spelledBy? arg = none := by
  refine List.find?_eq_none.2 fun flag hm hs => ?_
  obtain ⟨key, hrow⟩ := h.isRow_of_mem flag hm
  obtain ⟨form, he⟩ := hrow.isSpelled_iff.1 hs
  exact hn key form he

/-- Setting a flag changes no row but for its value. -/
theorem map_unset_give (flags : Flags) (arg text : String) :
    (flags.give arg text).map Flag.unset = flags.map Flag.unset := by
  induction flags with
  | nil => rfl
  | cons flag flags ih =>
    rw [give]
    split
    · rfl
    · rw [List.map_cons, ih, List.map_cons]

theorem IsTable.give (h : flags.IsTable) (arg text : String) : (flags.give arg text).IsTable := by
  rwa [IsTable, map_unset_give]

/-- A flag is set however it is spelled. -/
theorem give_spelled (hrows : ∀ flag ∈ flags, ∃ key, flag.IsRow key) (key : FlagKey)
    (form form' : FlagForm) (text : String) :
    flags.give (key.spelled form) text = flags.give (key.spelled form') text := by
  induction flags with
  | nil => rfl
  | cons flag flags ih =>
    obtain ⟨key', hrow⟩ := hrows flag (by simp)
    have hsame : flag.isSpelled (key.spelled form) = flag.isSpelled (key.spelled form') := by
      rw [Bool.eq_iff_iff, hrow.isSpelled_spelled_iff, hrow.isSpelled_spelled_iff]
    rw [Flags.give, Flags.give, hsame, ih fun f hf => hrows f (by simp [hf])]

/-- A flag that is set has that value, and the others have theirs. -/
theorem value?_give (hrows : ∀ flag ∈ flags, ∃ key, flag.IsRow key) {key : FlagKey}
    (hkey : ∃ flag ∈ flags, flag.IsRow key) (form : FlagForm) (text : String) (key' : FlagKey) :
    (flags.give (key.spelled form) text).value? key'.name =
      if key = key' then some text else flags.value? key'.name := by
  induction flags with
  | nil =>
    obtain ⟨flag, hm, -⟩ := hkey
    cases hm
  | cons flag flags ih =>
    obtain ⟨own, hrow⟩ := hrows flag (by simp)
    have hspelled : flag.isSpelled (key.spelled form) = true ↔ key = own :=
      hrow.isSpelled_spelled_iff
    have hname : (flag.name == key'.name) = true ↔ key' = own := hrow.name_beq_iff
    rw [Flags.give]
    by_cases hown : key = own
    · -- The first row is the one that is set.
      subst hown
      rw [if_pos (hspelled.2 rfl)]
      by_cases he : key = key'
      · subst he
        simp [value?, hname.2 rfl]
      · have hne : (flag.name == key'.name) = false :=
          Bool.eq_false_iff.2 fun hn => he (hname.1 hn).symm
        simp [value?, hne, he]
    · rw [if_neg fun hs => hown (hspelled.1 hs)]
      have hrest : ∃ f ∈ flags, f.IsRow key := by
        obtain ⟨f, hm, hf⟩ := hkey
        rcases List.mem_cons.1 hm with rfl | hm
        · exact absurd (FlagKey.name_inj.1 (hf.name_eq.symm.trans hrow.name_eq)) hown
        · exact ⟨f, hm, hf⟩
      have hlater := ih (fun f hf => hrows f (by simp [hf])) hrest
      by_cases he : own = key'
      · subst he
        simp [value?, hname.2 rfl, hown]
      · have hne : (flag.name == key'.name) = false :=
          Bool.eq_false_iff.2 fun hn => he (hname.1 hn).symm
        simpa [value?, hne] using hlater

end

/-- The table after flags were set one by one. -/
def setAll (flags : Flags) (settings : List (FlagKey × String)) : Flags :=
  settings.foldl (fun flags (key, text) => flags.give (key.spelled .long) text) flags

/-- What some settings set a flag to at last. -/
def lastOf? (key : FlagKey) (settings : List (FlagKey × String)) : Option String :=
  (settings.filterMap fun (k, text) => if k = key then some text else none).getLast?

theorem isSome_lastOf? (key : FlagKey) (settings : List (FlagKey × String)) :
    (lastOf? key settings).isSome = settings.any fun setting => setting.1 = key := by
  induction settings with
  | nil => rfl
  | cons setting settings ih =>
    obtain ⟨k, text⟩ := setting
    unfold lastOf? at ih ⊢
    by_cases hk : k = key
    · simp [hk, List.getLast?_cons]
    · rw [List.filterMap_cons_none (by simp [hk]), ih]
      simp [hk]

section

variable {flags : Flags}

theorem map_unset_setAll (flags : Flags) (settings : List (FlagKey × String)) :
    (flags.setAll settings).map Flag.unset = flags.map Flag.unset := by
  induction settings generalizing flags with
  | nil => rfl
  | cons setting settings ih => exact (ih _).trans (map_unset_give flags _ _)

theorem IsTable.setAll (h : flags.IsTable) (settings : List (FlagKey × String)) :
    (flags.setAll settings).IsTable := by
  rwa [IsTable, map_unset_setAll]

/-- A flag has what it was set to at last, or what it had before. -/
theorem IsTable.value?_setAll (h : flags.IsTable) (settings : List (FlagKey × String))
    (key : FlagKey) :
    (flags.setAll settings).value? key.name =
      (lastOf? key settings).or (flags.value? key.name) := by
  induction settings generalizing flags with
  | nil => rfl
  | cons setting settings ih =>
    obtain ⟨k, text⟩ := setting
    have hlater := ih (h.give (k.spelled .long) text)
    have hgive := value?_give h.isRow_of_mem (h.exists_isRow k) .long text key
    rw [hgive] at hlater
    refine hlater.trans ?_
    by_cases hk : k = key
    · simp [lastOf?, hk, List.getLast?_cons]
    · simp [lastOf?, hk]

end

end Flags

/-! ## Items -/

/-- Arguments that go together. -/
inductive FlagItem where
  /-- A flag that takes no value. -/
  | switch (key : FlagKey) (plain : key ≠ .config) (form : FlagForm)
  /-- The flag that takes a value, with the argument behind it, which may be any text. -/
  | config (form : FlagForm) (value : String)

namespace FlagItem

/-- The arguments of an item. -/
def arguments : FlagItem → List String
  | .switch key _ form => [key.spelled form]
  | .config form value => [FlagKey.config.spelled form, value]

/-- The flag that an item sets, and what it is set to. -/
def setting : FlagItem → FlagKey × String
  | .switch key _ _ => (key, "true")
  | .config _ value => (.config, value)

end FlagItem

/-- An error is what stands where an item would begin and begins none. -/
inductive FlagError.Refuses : FlagError → List String → Prop where
  /-- An argument that spells no flag. What is behind it is not looked at. -/
  | unknown (arg : String) (rest : List String)
    (h : ∀ key form, arg ≠ FlagKey.spelled key form) : Refuses (.unknownOption arg) (arg :: rest)
  /-- The flag that takes a value, and nothing behind it. -/
  | unvalued (form : FlagForm) :
    Refuses (.missingValue (FlagKey.config.spelled form)) [FlagKey.config.spelled form]

/-- Any arguments are items, with nothing behind them or something that is refused. -/
theorem FlagItem.exists_items (args : List String) :
    ∃ items rest, args = List.flatMap FlagItem.arguments items ++ rest ∧
      (rest = [] ∨ ∃ e : FlagError, e.Refuses rest) := by
  match args with
  | [] => exact ⟨[], [], rfl, .inl rfl⟩
  | arg :: args =>
    by_cases hs : ∃ key form, arg = FlagKey.spelled key form
    · obtain ⟨key, form, rfl⟩ := hs
      by_cases hc : key = .config
      · subst hc
        match args with
        | [] => exact ⟨[], _, rfl, .inr ⟨_, .unvalued form⟩⟩
        | value :: args =>
          obtain ⟨items, rest, rfl, hrest⟩ := exists_items args
          exact ⟨.config form value :: items, rest, rfl, hrest⟩
      · obtain ⟨items, rest, rfl, hrest⟩ := exists_items args
        exact ⟨.switch key hc form :: items, rest, rfl, hrest⟩
    · have hn : ∀ key form, arg ≠ FlagKey.spelled key form :=
        fun key form he => hs ⟨key, form, he⟩
      exact ⟨[], arg :: args, rfl, .inr ⟨_, .unknown arg args hn⟩⟩

namespace Flags

variable {flags : Flags}

/-! ## Reading items -/

theorem parse_cons_of_none {arg : String} (h : flags.spelledBy? arg = none) (rest : List String) :
    flags.parse (arg :: rest) = (flags, .error (.unknownOption arg)) := by
  cases rest <;> simp [parse, h]

theorem parse_cons_of_switch {arg : String} {flag : Flag} (h : flags.spelledBy? arg = some flag)
    (hf : flag.takesValue = false) (rest : List String) :
    flags.parse (arg :: rest) = (flags.give arg "true").parse rest := by
  cases rest <;> simp [parse, h, hf]

theorem parse_cons_of_value {arg : String} {flag : Flag} (h : flags.spelledBy? arg = some flag)
    (hf : flag.takesValue = true) (value : String) (rest : List String) :
    flags.parse (arg :: value :: rest) = (flags.give arg value).parse rest := by
  simp [parse, h, hf]

/-- Reading an item sets its flag, and goes on behind it. -/
theorem IsTable.parse_item (h : flags.IsTable) (item : FlagItem) (rest : List String) :
    flags.parse (item.arguments ++ rest) = (flags.setAll [item.setting]).parse rest := by
  cases item with
  | switch key plain form =>
    obtain ⟨flag, hfound, hrow⟩ := h.spelledBy?_spelled key form
    have htakes : flag.takesValue = false := by simp [hrow.takesValue_eq, plain]
    refine (parse_cons_of_switch hfound htakes rest).trans ?_
    rw [give_spelled h.isRow_of_mem key form .long]
    rfl
  | config form value =>
    obtain ⟨flag, hfound, hrow⟩ := h.spelledBy?_spelled .config form
    have htakes : flag.takesValue = true := by simp [hrow.takesValue_eq]
    refine (parse_cons_of_value hfound htakes value rest).trans ?_
    rw [give_spelled h.isRow_of_mem .config form .long]
    rfl

theorem IsTable.parse_items (h : flags.IsTable) (items : List FlagItem) (rest : List String) :
    flags.parse (items.flatMap FlagItem.arguments ++ rest) =
      (flags.setAll (items.map FlagItem.setting)).parse rest := by
  induction items generalizing flags with
  | nil => rfl
  | cons item items ih =>
    rw [List.flatMap_cons, List.append_assoc, h.parse_item, ih (h.setAll _)]
    rfl

/-- What is refused is an error, and sets nothing. -/
theorem IsTable.parse_of_refuses (h : flags.IsTable) {rest : List String} {e : FlagError}
    (hr : e.Refuses rest) : flags.parse rest = (flags, .error e) := by
  cases hr with
  | unknown arg rest hn => exact parse_cons_of_none (h.spelledBy?_eq_none hn) rest
  | unvalued form =>
    obtain ⟨flag, hfound, hrow⟩ := h.spelledBy?_spelled .config form
    have htakes : flag.takesValue = true := by simp [hrow.takesValue_eq]
    simp [parse, hfound, htakes]

/-- Items that set the same flags to the same texts are read alike, however they are spelled. -/
theorem IsTable.parse_respelled (h : flags.IsTable) {items items' : List FlagItem}
    (hs : items'.map FlagItem.setting = items.map FlagItem.setting) (rest : List String) :
    flags.parse (items'.flatMap FlagItem.arguments ++ rest) =
      flags.parse (items.flatMap FlagItem.arguments ++ rest) := by
  rw [h.parse_items, h.parse_items, hs]

/-- What items and a refused end are read as, or items by themselves. -/
theorem IsTable.parse_items_refused (h : flags.IsTable) (items : List FlagItem)
    {rest : List String} {e : FlagError} (hr : e.Refuses rest) :
    flags.parse (items.flatMap FlagItem.arguments ++ rest) =
      (flags.setAll (items.map FlagItem.setting), .error e) := by
  rw [h.parse_items, (h.setAll _).parse_of_refuses hr]

theorem IsTable.parse_items_only (h : flags.IsTable) (items : List FlagItem) :
    flags.parse (items.flatMap FlagItem.arguments) =
      (flags.setAll (items.map FlagItem.setting), .ok ()) := by
  have hitems := h.parse_items items []
  rwa [List.append_nil] at hitems

theorem isSet_setAll_iff (h : flags.IsTable) (items : List FlagItem) (key : FlagKey) :
    (flags.setAll (items.map FlagItem.setting)).isSet key.name = true ↔
      flags.isSet key.name = true ∨ ∃ item ∈ items, item.setting.1 = key := by
  rw [isSet, h.value?_setAll, Option.isSome_or, isSome_lastOf?, Bool.or_eq_true, or_comm, isSet]
  simp

/-- Flags are read off arguments that fall into items, and off no others. Any other arguments are
items up to an error: the first argument that stands where an item would begin and spells no flag,
or `config` with nothing behind it. Either way a flag is set if it was before or if an item sets it,
and to what the last item says. The two spellings of a flag say the same. -/
theorem parse_reads_items (flags : Flags) (h : flags.IsTable) (args : List String) :
    let parsed := flags.parse args
    parsed.1.IsTable ∧ parsed.1.map Flag.unset = flags.map Flag.unset ∧
    (parsed.2 = .ok () ↔ ∃ items : List FlagItem, args = items.flatMap FlagItem.arguments) ∧
    (∀ e, parsed.2 = .error e ↔ ∃ (items : List FlagItem) (rest : List String),
      args = items.flatMap FlagItem.arguments ++ rest ∧ e.Refuses rest) ∧
    ∀ (items : List FlagItem) (rest : List String),
      args = items.flatMap FlagItem.arguments ++ rest →
      (rest = [] ∨ ∃ e : FlagError, e.Refuses rest) →
      (∀ key, parsed.1.isSet key.name = true ↔
        flags.isSet key.name = true ∨ ∃ item ∈ items, item.setting.1 = key) ∧
      (∀ key, parsed.1.value? key.name =
        (lastOf? key (items.map FlagItem.setting)).or (flags.value? key.name)) ∧
      ∀ items' : List FlagItem, items'.map FlagItem.setting = items.map FlagItem.setting →
        flags.parse (items'.flatMap FlagItem.arguments ++ rest) = parsed ∧
        ∀ form form', rest = [FlagKey.config.spelled form] →
          flags.parse (items'.flatMap FlagItem.arguments ++ [FlagKey.config.spelled form']) =
            (parsed.1, .error (.missingValue (FlagKey.config.spelled form'))) := by
  intro parsed
  have hset : ∀ (items : List FlagItem) (rest : List String),
      args = items.flatMap FlagItem.arguments ++ rest →
      (rest = [] ∨ ∃ e : FlagError, e.Refuses rest) →
      parsed.1 = flags.setAll (items.map FlagItem.setting) := by
    rintro items rest rfl (rfl | ⟨e, he⟩)
    · exact (congrArg Prod.fst (h.parse_items items [])).trans rfl
    · exact congrArg Prod.fst (h.parse_items_refused items he)
  obtain ⟨items, rest, hargs, hrest⟩ := FlagItem.exists_items args
  have hparsed := hset items rest hargs hrest
  refine ⟨?_, ?_, ⟨fun hok => ?_, ?_⟩, fun e => ⟨fun he => ?_, ?_⟩, ?_⟩
  · rw [hparsed]
    exact h.setAll _
  · rw [hparsed, map_unset_setAll]
  · rcases hrest with rfl | ⟨e, he⟩
    · exact ⟨items, by rw [hargs, List.append_nil]⟩
    · subst hargs
      cases hok.symm.trans (congrArg Prod.snd (h.parse_items_refused items he))
  · rintro ⟨items, rfl⟩
    exact congrArg Prod.snd (h.parse_items_only items)
  · rcases hrest with rfl | ⟨e', he'⟩
    · rw [List.append_nil] at hargs
      subst hargs
      cases he.symm.trans (congrArg Prod.snd (h.parse_items_only items))
    · have hresult : parsed.2 = .error e' := by
        subst hargs
        exact congrArg Prod.snd (h.parse_items_refused items he')
      obtain rfl : e = e' := Except.error.inj (he.symm.trans hresult)
      exact ⟨items, rest, hargs, he'⟩
  · rintro ⟨items, rest, rfl, he⟩
    exact congrArg Prod.snd (h.parse_items_refused items he)
  · intro items rest hargs hrest
    have hparsed := hset items rest hargs hrest
    rw [hparsed]
    refine ⟨isSet_setAll_iff h items, h.value?_setAll _, fun items' hs => ⟨?_, ?_⟩⟩
    · rw [h.parse_respelled hs, ← hargs]
    · intro form form' _
      rw [h.parse_items_refused items' (.unvalued form'), hs]

/-- A value that is spelled like a flag, an empty one that replaces it, and an argument that spells
none, behind which nothing is read. -/
theorem parse_reads_items_refused :
    let args := ["-c", "--help", "-q", "--config", "", "--login", "-h"]
    let parsed := initial.parse args
    initial.IsTable ∧ parsed.2 = .error (.unknownOption "--login") ∧
      parsed.1.isSet "quiet" = true ∧ parsed.1.value? "config" = some "" ∧
      parsed.1.isSet "help" = false ∧
      initial.parse ["--config", "--help", "--quiet", "-c", "", "--login", "-h"] = parsed := by
  intro args parsed
  have hquiet : FlagKey.quiet ≠ .config := by decide
  let items : List FlagItem :=
    [.config .short "--help", .switch .quiet hquiet .short, .config .long ""]
  let items' : List FlagItem :=
    [.config .long "--help", .switch .quiet hquiet .long, .config .short ""]
  have hrefused : (FlagError.unknownOption "--login").Refuses ["--login", "-h"] := by
    refine .unknown "--login" ["-h"] fun key form => ?_
    cases key <;> cases form <;> decide
  obtain ⟨-, -, -, herror, hitems⟩ := parse_reads_items initial isTable_initial args
  obtain ⟨hset, hvalue, hspelled⟩ := hitems items ["--login", "-h"] rfl (.inr ⟨_, hrefused⟩)
  refine ⟨isTable_initial, (herror _).2 ⟨items, _, rfl, hrefused⟩, ?_, ?_, ?_, ?_⟩
  · exact (hset .quiet).2 (.inr ⟨_, List.mem_cons_of_mem _ List.mem_cons_self, rfl⟩)
  · exact (hvalue .config).trans rfl
  · have hnone : ∀ item ∈ items, item.setting.1 ≠ .help := by simp [items, FlagItem.setting]
    refine Bool.eq_false_iff.2 fun hhelp => ?_
    rcases (hset .help).1 hhelp with hbefore | ⟨item, hm, hkey⟩
    · cases hbefore
    · exact hnone item hm hkey
  · exact (hspelled items' rfl).1

end Flags

end LineShell
