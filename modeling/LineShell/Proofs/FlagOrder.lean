import LineShell.Proofs.FlagItems
import Mathlib.Data.List.Pairwise
import Mathlib.Data.List.Sort

/-!
# The order of the table of flags

The table of flags is asked for the first entry that an argument spells, and the help text lists its
entries by their long spellings. No argument spells two entries, and no two have a name or a long
spelling in common, however often arguments have been read. So nothing shows in which order the
entries stand, even if they change places in between.
-/

namespace LineShell

/-- No argument spells both flags. -/
def Flag.Apart (flag other : Flag) : Prop :=
  ∀ arg, ¬ (flag.isSpelled arg = true ∧ other.isSpelled arg = true)

namespace Flag.Apart

variable {flag other : Flag}

theorem symm (h : flag.Apart other) : other.Apart flag := fun arg hs => h arg ⟨hs.2, hs.1⟩

instance : Std.Symm Flag.Apart := ⟨fun _ _ => symm⟩

theorem iff_ne : flag.Apart other ↔ flag.short ≠ other.short ∧ flag.short ≠ other.long ∧
    flag.long ≠ other.short ∧ flag.long ≠ other.long := by
  simp only [Flag.Apart, Flag.isSpelled, Bool.or_eq_true, beq_iff_eq]
  constructor
  · intro h
    exact ⟨fun he => h _ ⟨.inl rfl, .inl he⟩, fun he => h _ ⟨.inl rfl, .inr he⟩,
      fun he => h _ ⟨.inr rfl, .inl he⟩, fun he => h _ ⟨.inr rfl, .inr he⟩⟩
  · rintro ⟨hss, hsl, hls, hll⟩ arg ⟨rfl | rfl, he | he⟩
    · exact hss he
    · exact hsl he
    · exact hls he
    · exact hll he

end Flag.Apart

instance (flag other : Flag) : Decidable (flag.Apart other) :=
  decidable_of_iff _ Flag.Apart.iff_ne.symm

namespace Flags

/-! ## Distinct entries -/

/-- Whatever looks for an entry finds one at most. -/
structure Distinct (flags : Flags) : Prop where
  names : (flags.map Flag.name).Nodup
  longs : (flags.map Flag.long).Nodup
  spellings : flags.Pairwise Flag.Apart

theorem distinct_initial : initial.Distinct :=
  ⟨by decide +kernel, by decide +kernel, by decide +kernel⟩

/-- Neither the order of the entries nor what they are set to makes them less distinct. -/
theorem Distinct.of_unset_perm {flags flags' : Flags} (h : flags.Distinct)
    (hp : (flags.map Flag.unset).Perm (flags'.map Flag.unset)) : flags'.Distinct := by
  have hkept {field : Flag → String} (hfield : field ∘ Flag.unset = field) :
      (flags.map field).Perm (flags'.map field) := by
    have h := hp.map field
    rwa [List.map_map, List.map_map, hfield] at h
  have hnames : (flags.map Flag.name).Perm (flags'.map Flag.name) := hkept rfl
  have hlongs : (flags.map Flag.long).Perm (flags'.map Flag.long) := hkept rfl
  have happart : (flags.map Flag.unset).Pairwise Flag.Apart := List.pairwise_map.2 h.spellings
  have happart' : (flags'.map Flag.unset).Pairwise Flag.Apart :=
    (hp.pairwise_iff Flag.Apart.symm).1 happart
  have hunset : flags'.Pairwise fun flag other => flag.unset.Apart other.unset :=
    List.pairwise_map.1 happart'
  exact ⟨hnames.nodup_iff.1 h.names, hlongs.nodup_iff.1 h.longs, hunset⟩

variable {flags flags' : Flags}

theorem IsTable.distinct (h : flags.IsTable) : flags.Distinct :=
  distinct_initial.of_unset_perm (h.symm.trans (.refl _))

theorem Distinct.perm (h : flags.Distinct) (hp : flags.Perm flags') : flags'.Distinct :=
  h.of_unset_perm (hp.map _)

theorem Distinct.give (h : flags.Distinct) (arg text : String) : (flags.give arg text).Distinct :=
  h.of_unset_perm (by rw [map_unset_give])

theorem Distinct.eq_of_isSpelled (h : flags.Distinct) {arg : String} {flag other : Flag}
    (hm : flag ∈ flags) (hm' : other ∈ flags) (hs : flag.isSpelled arg = true)
    (hs' : other.isSpelled arg = true) : flag = other :=
  Classical.byContradiction fun hne => h.spellings.forall hm hm' hne arg ⟨hs, hs'⟩

theorem Distinct.eq_of_long (h : flags.Distinct) {flag other : Flag} (hm : flag ∈ flags)
    (hm' : other ∈ flags) (hlong : flag.long = other.long) : flag = other :=
  List.inj_on_of_nodup_map h.longs hm hm' hlong

/-! ## Looking up and setting -/

/-- Where one entry at most is looked for, its place does not matter. -/
theorem find?_eq_of_perm {p : Flag → Bool} (hp : flags.Perm flags')
    (h : flags.Pairwise fun flag other => ¬ (p flag = true ∧ p other = true)) :
    flags.find? p = flags'.find? p := by
  induction hp with
  | nil => rfl
  | cons flag _ ih => rw [List.find?_cons, List.find?_cons, ih (List.pairwise_cons.1 h).2]
  | swap flag other rest =>
    have hone := (List.pairwise_cons.1 h).1 flag (by simp)
    simp only [List.find?_cons]
    cases hf : p flag <;> cases ho : p other <;> simp [hf, ho] at hone ⊢
  | trans hfirst _ ihfirst ihsecond =>
    have hmiddle := (hfirst.pairwise_iff fun hn hs => hn ⟨hs.2, hs.1⟩).1 h
    exact (ihfirst h).trans (ihsecond hmiddle)

theorem Distinct.spelledBy?_eq (h : flags.Distinct) (hp : flags.Perm flags') (arg : String) :
    flags'.spelledBy? arg = flags.spelledBy? arg :=
  (find?_eq_of_perm hp (h.spellings.imp fun ha => ha arg)).symm

theorem Distinct.value?_eq (h : flags.Distinct) (hp : flags.Perm flags') (name : String) :
    flags'.value? name = flags.value? name := by
  have hone : flags.Pairwise fun flag other =>
      ¬ ((flag.name == name) = true ∧ (other.name == name) = true) := by
    refine (List.pairwise_map.1 h.names).imp fun hne hs => hne ?_
    rw [eq_of_beq hs.1, eq_of_beq hs.2]
  rw [value?, value?, find?_eq_of_perm hp hone]

/-- Where an argument spells one entry at most, setting the first that it spells sets each. -/
theorem give_eq_map (h : flags.Pairwise Flag.Apart) (arg text : String) :
    flags.give arg text = flags.map fun flag =>
      if flag.isSpelled arg then { flag with value := some text } else flag := by
  induction flags with
  | nil => rfl
  | cons flag flags ih =>
    obtain ⟨hflag, hflags⟩ := List.pairwise_cons.1 h
    rw [Flags.give, List.map_cons]
    by_cases hs : flag.isSpelled arg = true
    · have hrest : ∀ other ∈ flags, ¬ other.isSpelled arg = true :=
        fun other hm ho => hflag other hm arg ⟨hs, ho⟩
      rw [if_pos hs, if_pos hs, List.map_congr_left fun other hm => if_neg (hrest other hm),
        List.map_id']
    · rw [if_neg hs, if_neg hs, ih hflags]

theorem Distinct.give_perm (h : flags.Distinct) (hp : flags.Perm flags') (arg text : String) :
    (flags.give arg text).Perm (flags'.give arg text) := by
  rw [give_eq_map h.spellings, give_eq_map (h.perm hp).spellings]
  exact hp.map _

/-! ## Reading arguments -/

/-- Arguments are answered alike by a table in another order, which is left in another order. -/
theorem Distinct.parse_perm (h : flags.Distinct) (hp : flags.Perm flags') (args : List String) :
    (flags'.parse args).2 = (flags.parse args).2 ∧
      (flags.parse args).1.Perm (flags'.parse args).1 := by
  fun_induction parse flags args generalizing flags' with
  | case1 flags => exact ⟨rfl, hp⟩
  | case2 flags arg rest hnone =>
    rw [parse_cons_of_none ((h.spelledBy?_eq hp arg).trans hnone)]
    exact ⟨rfl, hp⟩
  | case3 flags arg flag hflag htakes =>
    have hfound := (h.spelledBy?_eq hp arg).trans hflag
    simp [parse, hfound, htakes, hp]
  | case4 flags arg flag hflag htakes value rest ih =>
    rw [parse_cons_of_value ((h.spelledBy?_eq hp arg).trans hflag) htakes]
    exact ih (h.give arg value) (h.give_perm hp arg value)
  | case5 flags arg rest flag hflag htakes ih =>
    rw [parse_cons_of_switch ((h.spelledBy?_eq hp arg).trans hflag) (Bool.eq_false_iff.2 htakes)]
    exact ih (h.give arg "true") (h.give_perm hp arg "true")

/-- Reading arguments keeps the entries distinct. -/
theorem map_unset_parse (flags : Flags) (args : List String) :
    (flags.parse args).1.map Flag.unset = flags.map Flag.unset := by
  fun_induction parse flags args with
  | case1 => rfl
  | case2 => rfl
  | case3 => rfl
  | case4 flags arg flag _ _ value rest ih => rw [ih, map_unset_give]
  | case5 flags arg rest flag _ _ ih => rw [ih, map_unset_give]

/-! ## The help text -/

theorem sorted_eq (flags : Flags) :
    flags.sorted = flags.insertionSort fun flag other => flag.long ≤ other.long := by
  have hinsert : ∀ (flag : Flag) (flags : Flags), insertByLong flag flags =
      flags.orderedInsert (fun flag other => flag.long ≤ other.long) flag := by
    intro flag flags
    induction flags with
    | nil => rfl
    | cons other flags ih => rw [insertByLong, List.orderedInsert_cons, ih]
  induction flags with
  | nil => rfl
  | cons flag flags ih => rw [List.insertionSort_cons, ← ih, ← hinsert]; rfl

/-- Sorting leaves nothing of the order that was there before. -/
theorem Distinct.sorted_eq_of_perm (h : flags.Distinct) (hp : flags.Perm flags') :
    flags'.sorted = flags.sorted := by
  let before (flag other : Flag) : Prop := flag.long ≤ other.long
  have : Std.Total before := ⟨fun flag other => String.le_total flag.long other.long⟩
  have : IsTrans Flag before := ⟨fun _ _ _ => String.le_trans⟩
  have hsorted : ∀ flags : Flags, flags.sorted.Pairwise before := fun flags => by
    rw [sorted_eq]
    exact List.pairwise_insertionSort before flags
  have hperm : ∀ flags : Flags, flags.sorted.Perm flags := fun flags => by
    rw [sorted_eq]
    exact List.perm_insertionSort before flags
  refine List.Perm.eq_of_pairwise (fun flag other hm hm' hle hle' => ?_) (hsorted _) (hsorted _)
    ((hperm flags').trans (hp.symm.trans (hperm flags).symm))
  -- Two entries that may stand in either order have one long spelling, so they are one entry.
  exact h.eq_of_long (hp.symm.subset ((hperm flags').subset hm)) ((hperm flags).subset hm')
    (String.le_antisymm hle hle')

/-- Arguments read by calls in a row, what each call answers, and the table at the end. The entries
may change places before each call and after the last. -/
inductive Answers : Flags → List (List String) → List (Except FlagError Unit) → Flags → Prop where
  | nil {flags last : Flags} (h : flags.Perm last) : Answers flags [] [] last
  | cons {flags shuffled last : Flags} {args : List String} {calls : List (List String)}
    {answers : List (Except FlagError Unit)} (h : flags.Perm shuffled)
    (hrest : Answers (shuffled.parse args).1 calls answers last) :
    Answers flags (args :: calls) ((shuffled.parse args).2 :: answers) last

theorem Answers.map_unset {calls : List (List String)} {answers : List (Except FlagError Unit)}
    {last : Flags} (h : Answers flags calls answers last) :
    (flags.map Flag.unset).Perm (last.map Flag.unset) := by
  induction h with
  | nil h => exact h.map _
  | cons h _ ih =>
    rw [map_unset_parse] at ih
    exact (h.map _).trans ih

/-- Calls on two orders of a table are answered alike, and leave two orders of a table. -/
theorem Distinct.answers_perm {calls : List (List String)}
    {answers answers' : List (Except FlagError Unit)} {last last' : Flags} (h : flags.Distinct)
    (hp : flags.Perm flags') (ha : Answers flags calls answers last)
    (ha' : Answers flags' calls answers' last') : answers' = answers ∧ last.Perm last' := by
  induction ha generalizing flags' answers' with
  | nil hlast =>
    cases ha' with
    | nil hlast' => exact ⟨rfl, hlast.symm.trans (hp.trans hlast')⟩
  | @cons _ shuffled _ args _ _ hshuffled _ ih =>
    cases ha' with
    | @cons _ shuffled' _ _ _ _ hshuffled' hrest' =>
      have hd := h.perm hshuffled
      obtain ⟨hanswer, hparsed⟩ :=
        hd.parse_perm (hshuffled.symm.trans (hp.trans hshuffled')) args
      have hd' : (shuffled.parse args).1.Distinct := hd.of_unset_perm (by rw [map_unset_parse])
      obtain ⟨rfl, hlast⟩ := ih hd' hparsed hrest'
      exact ⟨by rw [hanswer], hlast⟩

/-- Two tables of the flags that differ in the order of their entries, and whose entries change
places as they like while arguments are read, are not told apart: not by the answers, nor by what is
set and to what, nor by the help text. At any time an argument spells one entry at most, and no two
entries have the same long spelling. -/
theorem order_unseen {flags flags' : Flags} {calls : List (List String)}
    {answers answers' : List (Except FlagError Unit)} {last last' : Flags} (h : flags.IsTable)
    (hp : flags.Perm flags') (ha : Answers flags calls answers last)
    (ha' : Answers flags' calls answers' last') :
    answers' = answers ∧ (∀ name, last'.value? name = last.value? name) ∧
    (∀ name, last'.isSet name = last.isSet name) ∧ last'.helpText = last.helpText ∧
    (∀ arg, ∀ flag ∈ last, ∀ other ∈ last,
      flag.isSpelled arg = true → other.isSpelled arg = true → flag = other) ∧
    ∀ flag ∈ last, ∀ other ∈ last, flag.long = other.long → flag = other := by
  obtain ⟨hanswers, hlast⟩ := h.distinct.answers_perm hp ha ha'
  have hd : last.Distinct := h.distinct.of_unset_perm ha.map_unset
  refine ⟨hanswers, hd.value?_eq hlast, fun name => ?_, ?_,
    fun arg flag hm other hm' => hd.eq_of_isSpelled hm hm',
    fun flag hm other hm' => hd.eq_of_long hm hm'⟩
  · rw [isSet, isSet, hd.value?_eq hlast]
  · rw [helpText, helpText, hd.sorted_eq_of_perm hlast]

/-- A table read twice, with an error in between, and the same with its entries turned around at the
beginning and again at the end. -/
theorem order_unseen_reversed :
    let turned : Flags := initial.reverse
    let first := initial.parse ["-q", "--config"]
    let second := first.1.parse ["-c", "rc", "-h"]
    let first' := turned.parse ["-q", "--config"]
    let second' := first'.1.parse ["-c", "rc", "-h"]
    let last : Flags := second'.1.reverse
    initial.IsTable ∧ initial.Perm turned ∧
      Answers initial [["-q", "--config"], ["-c", "rc", "-h"]] [first.2, second.2] second.1 ∧
      Answers turned [["-q", "--config"], ["-c", "rc", "-h"]] [first'.2, second'.2] last ∧
      first.2 = .error (.missingValue "--config") ∧ [first'.2, second'.2] = [first.2, second.2] ∧
      last.value? "config" = second.1.value? "config" ∧ last.helpText = second.1.helpText := by
  intro turned first second first' second' last
  have hp : initial.Perm turned := (List.reverse_perm initial).symm
  have hlast : second'.1.Perm last := (List.reverse_perm second'.1).symm
  have ha : Answers initial [["-q", "--config"], ["-c", "rc", "-h"]] [first.2, second.2] second.1 :=
    .cons (.refl _) (.cons (.refl _) (.nil (.refl _)))
  have ha' : Answers turned [["-q", "--config"], ["-c", "rc", "-h"]] [first'.2, second'.2] last :=
    .cons (.refl _) (.cons (.refl _) (.nil hlast))
  obtain ⟨hanswers, hvalue, -, hhelp, -⟩ := order_unseen isTable_initial hp ha ha'
  exact ⟨isTable_initial, hp, ha, ha', by decide +kernel, hanswers, hvalue "config", hhelp⟩

end Flags

end LineShell
