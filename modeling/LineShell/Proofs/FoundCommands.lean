import LineShell.Proofs.Candidates
import LineShell.Proofs.Paths

/-!
# The commands that are found and offered

The search for a program and the completion of its name read the search path each for itself. What
the search finds in a directory that the path names is offered. An empty entry of the path parts
them: the search takes it for the working directory, completion finds nothing to list there.
-/

namespace LineShell

namespace Machine

/-! ## The search -/

/-- A directory holds an executable file under this name, as the search for a program sees it: an
empty directory is the working directory. -/
def Holds (m : Machine) (dir : NodeId) (directory : Path) (name : String) : Prop :=
  ∃ content, executableAt m.files dir (candidatePath directory (Octets.ofString name)) = .ok content

theorem lookup_map_ofString (environment : Environment) (name : String) :
    (environment.map fun (name, value) =>
        (Octets.ofString name, Octets.ofBytes value.bytes)).lookup (Octets.ofString name) =
      (environment.get? name).map fun value => Octets.ofBytes value.bytes := by
  unfold Environment.get?
  induction environment with
  | nil => rfl
  | cons entry environment ih =>
    obtain ⟨other, value⟩ := entry
    rw [List.map_cons]
    by_cases h : name = other
    · subst h
      simp
    · have hoctets : Octets.ofString name ≠ Octets.ofString other :=
        fun ho => h (Octets.ofString_injective ho)
      simp [List.lookup_cons, beq_false_of_ne h, beq_false_of_ne hoctets, ih]

theorem searchPath_nextJob {m : Machine} {path : Environment.Value}
    (h : m.environment.get? "PATH" = some path) (dir : NodeId) :
    (m.nextJob dir).searchPath = Octets.ofBytes path.bytes := by
  have hvalue :
      (m.nextJob dir).value? (Octets.ofString "PATH") = some (Octets.ofBytes path.bytes) := by
    rw [Job.value?, nextJob, lookup_map_ofString, h, Option.map_some]
  rw [Job.searchPath, hvalue, Option.getD_some]

theorem exists_of_firstAmong {α : Type} {attempt : Path → Except IoError α} {denied : Bool}
    {last : IoError} {paths : List Path} {found : α}
    (h : firstAmong attempt denied last paths = .ok found) :
    ∃ path ∈ paths, attempt path = .ok found := by
  fun_induction firstAmong attempt denied last paths with
  | case1 => cases h
  | case2 denied last path rest result hpath =>
    cases h
    exact ⟨path, by simp, hpath⟩
  | case3 denied last path rest e hpath hskip ih =>
    obtain ⟨path, hmem, hok⟩ := ih h
    exact ⟨path, by simp [hmem], hok⟩
  | case4 => cases h

theorem executable_of_imageAt {t : FileTree} {dir : NodeId} {depth : Nat} {path : Path}
    {image : Image} (h : imageAt t dir depth path = .ok image) :
    ∃ content, executableAt t dir path = .ok content := by
  cases depth <;> rw [imageAt] at h <;> split at h
  · cases h
  · cases h
  · cases h
  all_goals exact ⟨_, ‹_›⟩

/-- A name without a slash is tried in the searched directories, in their order. -/
theorem findImage_eq {m : Machine} {path : Environment.Value}
    (hpath : m.environment.get? "PATH" = some path) (dir : NodeId) {name : String}
    (hne : name ≠ "") (hslash : '/' ∉ name.toList) :
    findImage (m.nextJob dir) (Octets.ofString name) =
      firstAmong (m.nextJob dir).imageAt false .noSuchFile
        ((searched path).map fun directory => candidatePath directory (Octets.ofString name)) := by
  have hempty : ¬ (Octets.ofString name).isEmpty = true := by
    simpa using Octets.ofString_ne_nil hne
  have hplain : ¬ (Octets.ofString name).contains '/' = true := by
    simpa using fun hm => hslash (Octets.slash_mem_ofString hm)
  rw [findImage, Job.attemptAt, if_neg hempty, if_neg hplain, searchPath_nextJob hpath]
  rfl

/-- A name that starts a program is the name of an executable file in a searched directory. -/
theorem holds_of_findImage {m : Machine} {path : Environment.Value}
    (hpath : m.environment.get? "PATH" = some path) {dir : NodeId} {name : String}
    (hne : name ≠ "") (hslash : '/' ∉ name.toList) {image : Image}
    (h : findImage (m.nextJob dir) (Octets.ofString name) = .ok image) :
    ∃ directory ∈ searched path, m.Holds dir directory name := by
  rw [findImage_eq hpath dir hne hslash] at h
  obtain ⟨candidate, hmem, himage⟩ := exists_of_firstAmong h
  obtain ⟨directory, hdirectory, rfl⟩ := List.mem_map.1 hmem
  exact ⟨directory, hdirectory, executable_of_imageAt himage⟩

/-! ## The listing -/

/-- There is nothing to list under an empty path. -/
theorem ListsIn.ne_nil {m : Machine} {dir : NodeId} {directory : Path} {name : String}
    (h : m.ListsIn dir directory name) : directory ≠ [] := by
  rintro rfl
  obtain ⟨entries, hentries, -⟩ := h
  obtain ⟨id, hid, -⟩ := FileTree.list_eq_ok.1 hentries
  cases hid

/-- A readable directory lists the executable files that a search finds in it. -/
theorem Holds.listsIn {m : Machine} (hm : m.files.WellFormed) {dir : NodeId} {directory : Path}
    {name : String} (h : m.Holds dir directory name) (hdirectory : directory ≠ [])
    (hne : name ≠ "") (hslash : '/' ∉ name.toList)
    (hread : ∀ id, m.files.resolveDirectory dir directory = .ok id →
      (m.files.mode id).mayRead = true) : m.ListsIn dir directory name := by
  obtain ⟨content, hcontent⟩ := h
  rw [candidatePath, if_neg (by simpa using hdirectory)] at hcontent
  obtain ⟨id, hid, node, hnode, hkind⟩ := hm.lists_executable hdirectory
    (Octets.ofString_ne_nil hne) (fun hm => hslash (Octets.slash_mem_ofString hm)) hcontent
  refine ⟨_, FileTree.list_eq_ok.2 ⟨id, hid, hread id hid, rfl⟩, _, List.mem_map.2 ⟨_, hnode, rfl⟩,
    hkind, Octets.toBytes_ofString name⟩

end Machine

namespace Completion

/-- A name is offered for every beginning of it that has been typed. -/
def Offers (names : List String) (name : String) : Prop :=
  ∀ typed, typed <+: name.toList → ∃ candidates,
    complete names (String.ofList typed) (Text.byteLength typed) = some ⟨0, candidates⟩ ∧
      name ∈ candidates

/-- Of the names without blanks, completion offers the ones that it knows. -/
theorem offers_iff {names : List String} {name : String}
    (hblank : ∀ c ∈ name.toList, Text.isBlank c = false) :
    Offers names name ↔ name ∈ names := by
  have hcomplete {typed : List Char} (h : typed <+: name.toList) :
      complete names (String.ofList typed) (Text.byteLength typed) =
        some ⟨0, startingWith names typed⟩ := by
    have htyped : ∀ c ∈ typed, Text.isBlank c = false := fun c hc => hblank c (h.subset hc)
    have haround : Around (String.ofList typed).toList (Text.byteLength typed) [] typed [] :=
      { line_eq := by simp
        position_eq := rfl
        gap := nofun
        word := fun c hc => htyped c (List.mem_of_mem_head? hc) }
    have hany : typed.any Text.isBlank = false := by simpa using htyped
    rw [haround.complete_eq, hany]
    rfl
  constructor
  · intro h
    obtain ⟨candidates, hc, hmem⟩ := h [] List.nil_prefix
    rw [hcomplete List.nil_prefix] at hc
    cases hc
    exact (mem_startingWith.1 hmem).1
  · intro h typed htyped
    exact ⟨_, hcomplete htyped, mem_startingWith.2 ⟨h, htyped⟩⟩

end Completion

open Completion (Offers commandNames)

namespace Machine

/-- What a name starts is offered for whatever beginning of the name has been typed, unless it was
found in the working directory by an empty entry of the search path. More than that, a name is
offered if some searched directory that the path names holds an executable file under it, and it is
offered only as the name of a builtin or because such a directory lists it. -/
theorem offers_of_found {m : Machine} (hm : m.files.WellFormed) (dir : NodeId)
    {path : Environment.Value} (hpath : m.environment.get? "PATH" = some path)
    (hread : ∀ directory ∈ searched path, ∀ id,
      m.files.resolveDirectory dir directory = .ok id → (m.files.mode id).mayRead = true)
    (builtins : List String) {name : String} (hne : name ≠ "")
    (hblank : ∀ c ∈ name.toList, Text.isBlank c = false) (hslash : '/' ∉ name.toList) :
    (∀ image, findImage (m.nextJob dir) (Octets.ofString name) = .ok image →
      Offers (commandNames builtins (m.searchedEntries dir)) name ∨
        [] ∈ searched path ∧ m.Holds dir [] name) ∧
    (∀ directory ∈ searched path, directory ≠ [] → m.Holds dir directory name →
      Offers (commandNames builtins (m.searchedEntries dir)) name) ∧
    (Offers (commandNames builtins (m.searchedEntries dir)) name ↔
      name ∈ builtins ∨
        ∃ directory ∈ searched path, directory ≠ [] ∧ m.ListsIn dir directory name) := by
  have hoffers : Offers (commandNames builtins (m.searchedEntries dir)) name ↔
      name ∈ builtins ∨
        ∃ directory ∈ searched path, directory ≠ [] ∧ m.ListsIn dir directory name := by
    rw [Completion.offers_iff hblank, mem_commandNames_searchedEntries]
    refine or_congr_right ⟨?_, ?_⟩
    · rintro ⟨path', hpath', directory, hmem, hlists⟩
      obtain rfl := Option.some.inj (hpath.symm.trans hpath')
      exact ⟨directory, hmem, hlists.ne_nil, hlists⟩
    · rintro ⟨directory, hmem, -, hlists⟩
      exact ⟨path, hpath, directory, hmem, hlists⟩
  have hnamed : ∀ directory ∈ searched path, directory ≠ [] → m.Holds dir directory name →
      Offers (commandNames builtins (m.searchedEntries dir)) name :=
    fun directory hmem hdirectory hholds => hoffers.2 (.inr ⟨directory, hmem, hdirectory,
      hholds.listsIn hm hdirectory hne hslash (hread directory hmem)⟩)
  refine ⟨fun image himage => ?_, hnamed, hoffers⟩
  obtain ⟨directory, hmem, hholds⟩ := holds_of_findImage hpath hne hslash himage
  by_cases hdirectory : directory = []
  · subst hdirectory
    exact .inr ⟨hmem, hholds⟩
  · exact .inl (hnamed directory hmem hdirectory hholds)

/-- Files with one program, which has a name in the root and one in a directory below it. -/
def oneProgram : FileTree :=
  ⟨#[⟨.directory 0 [(['b'], 1), (['u', 'p'], 2)], 0o755⟩, ⟨.directory 0 [(['l', 's'], 2)], 0o755⟩,
    ⟨.file (.tool .ls), 0o755⟩]⟩

/-- A machine with one program and a search path. -/
def withOneProgram (path : Environment.Value) : Machine :=
  { files := oneProgram, environment := [("PATH", path)], input := [], nextPid := 1 }

theorem wellFormed_oneProgram : oneProgram.WellFormed := by
  refine .of_admits (t := oneProgram) (fun _ => id) fun id kind hk => ?_
  match id with
  | 0 | 1 =>
    cases hk
    rintro _ _ ⟨⟩
    exact ⟨rfl, by simp⟩
  | 2 =>
    cases hk
    rintro _ _ ⟨⟩
  | _ + 3 => cases hk

theorem passable_root : oneProgram.Passable FileTree.root 0 [(['b'], 1), (['u', 'p'], 2)] :=
  ⟨rfl, by decide⟩

theorem passable_below : oneProgram.Passable 1 0 [(['l', 's'], 2)] := ⟨rfl, by decide⟩

theorem not_symlink (id : NodeId) (target : Path) :
    oneProgram.kind? id ≠ some (.symlink target) := by
  match id with
  | 0 | 1 | 2 | _ + 3 => nofun

theorem mayRead_oneProgram {id : NodeId} (h : oneProgram.isDirectory id = true) :
    (oneProgram.mode id).mayRead = true := by
  match id with
  | 0 | 1 => decide
  | 2 | _ + 3 => cases h

/-- The program is what a name starts if the only path that is tried leads to it. -/
theorem findImage_withOneProgram {path : Environment.Value} {name : String} {directory : Path}
    (hne : name ≠ "") (hslash : '/' ∉ name.toList) (hsearched : searched path = [directory])
    (hresolve : oneProgram.resolve true FileTree.root
      (candidatePath directory (Octets.ofString name)) = .ok 2) :
    findImage ((withOneProgram path).nextJob FileTree.root) (Octets.ofString name) =
      .ok ⟨.ls, none, []⟩ := by
  have hexecutable : executableAt oneProgram FileTree.root
      (candidatePath directory (Octets.ofString name)) = .ok (.tool .ls) := by
    rw [executableAt, hresolve]
    rfl
  have himage : ((withOneProgram path).nextJob FileTree.root).imageAt
      (candidatePath directory (Octets.ofString name)) = .ok ⟨.ls, none, []⟩ := by
    change imageAt oneProgram FileTree.root (mostInterpreters + 1) _ = _
    rw [imageAt, hexecutable]
  rw [findImage_eq rfl _ hne hslash, hsearched, List.map_singleton, firstAmong, himage]

/-- A program in a directory that the path names is offered. -/
theorem offers_of_found_ls :
    (∃ image, findImage ((withOneProgram "/b").nextJob FileTree.root) (Octets.ofString "ls") =
      .ok image) ∧
    Offers (commandNames ["cd", "exit"] ((withOneProgram "/b").searchedEntries FileTree.root))
      "ls" := by
  have hsearched : searched "/b" = [['/', 'b']] := by decide +kernel
  have hwalk : oneProgram.walk true mostLinks FileTree.root [['b'], ['l', 's']] =
      .ok (.node 2) := by
    rw [passable_root.walk_entry (by decide) (by decide) (by decide) rfl (not_symlink _),
      passable_below.walk_entry (by decide) (by decide) (by decide) rfl (not_symlink _),
      FileTree.walk_nil]
  have hname : "ls" ≠ "" := by decide
  have hfound := findImage_withOneProgram hname (by decide) hsearched
    (resolve_eq_ok.2 ⟨by decide, by decide, hwalk⟩)
  refine ⟨⟨_, hfound⟩, ?_⟩
  obtain ⟨hoffers, -⟩ := offers_of_found (m := withOneProgram "/b") wellFormed_oneProgram
    FileTree.root rfl
    (fun _ _ _ hid => mayRead_oneProgram (FileTree.isDirectory_of_resolveDirectory hid))
    ["cd", "exit"] hname (by simp [Text.isBlank]) (by decide)
  rcases hoffers _ hfound with h | ⟨h, -⟩
  · exact h
  · rw [hsearched] at h
    simp at h

/-- A program in the working directory is found by an empty search path, and not offered. -/
theorem found_not_offered :
    (withOneProgram "").environment.get? "PATH" = some "" ∧
    ((withOneProgram "").files.mode FileTree.root).mayRead = true ∧
    (∃ image, findImage ((withOneProgram "").nextJob FileTree.root) (Octets.ofString "up") =
      .ok image) ∧
    Completion.complete
      (commandNames ["cd", "exit"] ((withOneProgram "").searchedEntries FileTree.root)) "u" 1 =
        some ⟨0, []⟩ ∧
    ¬ Offers (commandNames ["cd", "exit"] ((withOneProgram "").searchedEntries FileTree.root))
      "up" := by
  have hwalk : oneProgram.walk true mostLinks FileTree.root [['u', 'p']] = .ok (.node 2) := by
    rw [passable_root.walk_entry (by decide) (by decide) (by decide) rfl (not_symlink _),
      FileTree.walk_nil]
  have hname : "up" ≠ "" := by decide
  have hsearched : searched "" = [[]] := by decide +kernel
  have hfound := findImage_withOneProgram hname (by decide) hsearched
    (resolve_eq_ok.2 ⟨by decide, by decide, hwalk⟩)
  refine ⟨rfl, rfl, ⟨_, hfound⟩, rfl, ?_⟩
  rw [Completion.offers_iff (by simp [Text.isBlank]), mem_commandNames_searchedEntries]
  rintro (hbuiltin | ⟨path, hpath, directory, hmem, hlists⟩)
  · simp at hbuiltin
  · cases hpath
    rw [hsearched, List.mem_singleton] at hmem
    exact hlists.ne_nil hmem

end Machine

end LineShell
