import LineShell.Proofs.ByteOrder
import LineShell.Proofs.Entries
import LineShell.Proofs.Slices
import LineShell.Proofs.StrictDecoding
import LineShell.Proofs.Tokens
import LineShell.Proofs.Trees

/-!
# The candidates of a completion

The names that a word is completed from are those of the builtins and those that the directories of
the search path list, each once and in the order of their bytes. What stands before the cursor is a
gap and then the beginning of a word, and a candidate in the place of that beginning is read as the
first word of the line.
-/

namespace LineShell

/-- An entry offers the name that its bytes are read as, if it is a file or a symbolic link. -/
theorem DirectoryEntry.commandName?_eq_some {entry : DirectoryEntry} {name : String} :
    entry.commandName? = some name ↔
      (entry.kind = .file ∨ entry.kind = .symlink) ∧
        entry.name = Text.Utf8.encode name.toList := by
  have hname (cs : List Char) : String.ofList cs = name ↔ cs = name.toList := by
    rw [← String.toList_inj, String.toList_ofList]
  unfold commandName?
  split
  · next hk => simp [hk, hname, Text.Utf8.decode?_eq_some_iff]
  · next hk => simp [hk]

namespace Completion

/-! ## The names in order -/

theorem mem_insertName {name other : String} {names : List String} :
    other ∈ insertName name names ↔ other = name ∨ other ∈ names := by
  fun_induction insertName name names with
  | case1 => simp
  | case2 next rest hlt => simp
  | case3 rest hlt => simp
  | case4 next rest hlt hne ih =>
    rw [List.mem_cons, ih, List.mem_cons]
    exact or_left_comm

/-- Putting a name at its place keeps the names in order. -/
theorem pairwise_insertName {name : String} {names : List String}
    (h : names.Pairwise (· < ·)) : (insertName name names).Pairwise (· < ·) := by
  fun_induction insertName name names with
  | case1 => simp
  | case2 next rest hlt =>
    refine List.pairwise_cons.2 ⟨fun other ho => ?_, h⟩
    rcases List.mem_cons.1 ho with rfl | ho
    · exact hlt
    · exact String.lt_trans hlt (List.rel_of_pairwise_cons h ho)
  | case3 => exact h
  | case4 next rest hlt hne ih =>
    refine List.pairwise_cons.2 ⟨fun other ho => ?_, ih h.of_cons⟩
    rcases mem_insertName.1 ho with rfl | ho
    · exact Std.lt_of_le_of_ne (String.not_lt.1 hlt) (Ne.symm hne)
    · exact List.rel_of_pairwise_cons h ho

theorem mem_commandNames {builtins : List String} {directories : List (List DirectoryEntry)}
    {name : String} :
    name ∈ commandNames builtins directories ↔
      name ∈ builtins ∨
        ∃ entries ∈ directories, ∃ entry ∈ entries, entry.commandName? = some name := by
  have hfold (names : List String) : name ∈ names.foldr insertName [] ↔ name ∈ names := by
    induction names with
    | nil => rfl
    | cons other names ih => rw [List.foldr_cons, mem_insertName, ih, List.mem_cons]
  rw [commandNames, hfold, List.mem_append, List.mem_filterMap]
  simp only [List.mem_flatten]
  grind

theorem pairwise_commandNames (builtins : List String) (directories : List (List DirectoryEntry)) :
    (commandNames builtins directories).Pairwise (· < ·) := by
  unfold commandNames
  induction builtins ++ directories.flatten.filterMap DirectoryEntry.commandName? with
  | nil => exact .nil
  | cons name names ih => exact pairwise_insertName ih

/-- Names in order have their bytes in order. -/
theorem bytesOf_lt_bytesOf {x y : String} (h : x < y) :
    Machine.bytesOf x < Machine.bytesOf y :=
  Text.Utf8.encode_lt_encode (String.lt_iff.1 h)

theorem mem_startingWith {names : List String} {beginning : List Char} {name : String} :
    name ∈ startingWith names beginning ↔ name ∈ names ∧ beginning <+: name.toList := by
  simp [startingWith]

end Completion

/-! ## What the machine offers -/

namespace Machine

/-- The directories of a search path. -/
def searched (path : Environment.Value) : List Path := (Octets.ofBytes path.bytes).splitOn ':'

/-- A directory lists a file or a symbolic link of this name. -/
def ListsIn (m : Machine) (dir : NodeId) (directory : Path) (name : String) : Prop :=
  ∃ entries, m.files.list dir directory = .ok entries ∧
    ∃ entry ∈ entries, (entry.kind = .file ∨ entry.kind = .symlink) ∧
      entry.name = Text.Utf8.encode name.toList

/-- A directory of the search path lists a file or a symbolic link of this name. -/
def Lists (m : Machine) (dir : NodeId) (name : String) : Prop :=
  ∃ path, m.environment.get? "PATH" = some path ∧
    ∃ directory ∈ searched path, m.ListsIn dir directory name

theorem mem_searchedEntries {m : Machine} {dir : NodeId} {entries : List DirectoryEntry} :
    entries ∈ m.searchedEntries dir ↔
      ∃ path, m.environment.get? "PATH" = some path ∧
        ∃ directory ∈ searched path, m.files.list dir directory = .ok entries := by
  have hok (result : Except IoError (List DirectoryEntry)) :
      result.toOption = some entries ↔ result = .ok entries := by
    cases result <;> simp [Except.toOption]
  unfold searchedEntries
  split
  · next h => simp [h]
  · next path h => simp [h, hok, searched]

theorem mem_commandNames_searchedEntries {m : Machine} {dir : NodeId} {builtins : List String}
    {name : String} :
    name ∈ Completion.commandNames builtins (m.searchedEntries dir) ↔
      name ∈ builtins ∨ m.Lists dir name := by
  simp only [Completion.mem_commandNames, mem_searchedEntries,
    DirectoryEntry.commandName?_eq_some, Lists, ListsIn]
  grind

theorem FileTree.isDirectory_of_resolveDirectory {t : FileTree} {dir id : NodeId} {path : Path}
    (h : t.resolveDirectory dir path = .ok id) : t.isDirectory id = true := by
  unfold resolveDirectory at h
  repeat' split at h
  all_goals cases h
  assumption

/-- The entries of a directory are those of the node that it resolves to. -/
theorem FileTree.list_eq_ok {t : FileTree} {dir : NodeId} {path : Path}
    {entries : List DirectoryEntry} :
    t.list dir path = .ok entries ↔
      ∃ id, t.resolveDirectory dir path = .ok id ∧ (t.mode id).mayRead = true ∧
        entries = (t.entries id).map fun (name, id) =>
          { name := Octets.toBytes name, kind := t.kindOf id } := by
  unfold list namesAt
  cases t.resolveDirectory dir path with
  | error e => simp [Except.map]
  | ok id =>
    cases hr : (t.mode id).mayRead with
    | true => simpa [Except.map, hr] using eq_comm
    | false => simp [Except.map, hr]

/-- No directory lists the empty name. -/
theorem Lists.ne_empty {m : Machine} (hm : m.files.WellFormed) {dir : NodeId} {name : String}
    (h : m.Lists dir name) : name ≠ "" := by
  obtain ⟨_, -, _, -, entries, hentries, entry, hentry, -, hname⟩ := h
  obtain ⟨id, hid, -, rfl⟩ := FileTree.list_eq_ok.1 hentries
  obtain ⟨⟨octets, node⟩, hmem, rfl⟩ := List.mem_map.1 hentry
  rintro rfl
  obtain ⟨parent, names, hk⟩ := FileTree.isDirectory_iff.1
    (FileTree.isDirectory_of_resolveDirectory hid)
  rw [FileTree.entries, hk] at hmem
  exact hm.named hk _ hmem (by simpa [Octets.toBytes] using hname)

end Machine

/-! ## A line around a cursor -/

/-- A line has a gap at its beginning, then what comes before the cursor, and the text behind it.
What comes before the cursor begins with a word unless it is empty. -/
structure Completion.Around (line : List Char) (position : Nat) (gap word after : List Char) :
    Prop where
  line_eq : line = gap ++ word ++ after
  position_eq : Text.byteLength (gap ++ word) = position
  gap : ∀ c ∈ gap, Text.isBlank c = true
  word : ∀ c ∈ word.head?, Text.isBlank c = false

namespace Completion

/-- There is a cursor wherever a line may be cut. -/
theorem exists_around {line : List Char} {position : Nat}
    (h : Text.isBoundary line position = true) :
    ∃ gap word after, Around line position gap word after := by
  obtain ⟨before, after, rfl, rfl⟩ := Text.isBoundary_iff.1 h
  refine ⟨before.takeWhile Text.isBlank, before.dropWhile Text.isBlank, after, ?_, ?_, ?_, ?_⟩
  · rw [List.takeWhile_append_dropWhile]
  · rw [List.takeWhile_append_dropWhile]
  · intro c hc
    exact List.all_eq_true.1 List.all_takeWhile c hc
  · intro c hc
    have h := List.head?_dropWhile_not Text.isBlank before
    rw [Option.mem_def.1 hc] at h
    simpa using h

theorem Around.trimStart {line gap word after : List Char} {position : Nat}
    (h : Around line position gap word after) : Text.trimStart (gap ++ word) = word := by
  rw [Text.trimStart_gap_append h.gap, Text.trimStart_of_head h.word]

theorem Around.split {line gap word after : List Char} {position : Nat}
    (h : Around line position gap word after) :
    Text.splitAtByte? position line = some (gap ++ word, after) := by
  rw [h.line_eq, ← h.position_eq, Text.splitAtByte?_append]

/-- Completion looks at the word before the cursor: a blank in it means that there is nothing to
complete. -/
theorem Around.complete_eq {names : List String} {line : String} {position : Nat}
    {gap word after : List Char} (h : Around line.toList position gap word after) :
    complete names line position = some
      (if word.any Text.isBlank then ⟨position, []⟩
      else ⟨Text.byteLength gap, startingWith names word⟩) := by
  have hlength : Text.byteLength (gap ++ word) - Text.byteLength word = Text.byteLength gap := by
    rw [Text.byteLength_append, Nat.add_sub_cancel]
  rw [complete, h.split, Option.map_some]
  simp only [h.trimStart, hlength]

end Completion

/-! ## The words of the line with a candidate -/

namespace Tokenizer

/-- At blanks, the command of a line is its first word. -/
theorem command_of_words {t : Tokenizer} (ht : t.mode = .whitespace) {line word : String}
    {rest : List String} (h : t.words (lineBody line.toList) = word :: rest) :
    ∃ args, t.tokenize line = some args ∧ args.command = word := by
  cases htokenize : t.tokenize line with
  | none =>
    have hblank := List.all_eq_true.1 (tokenize_eq_none_iff.1 htokenize)
    rw [words_eq t ht, Text.words_gap hblank] at h
    cases h
  | some args =>
    obtain ⟨-, htokens, -⟩ := tokenize_eq_some_iff.1 htokenize
    obtain ⟨n, hn⟩ : ∃ n, t.capacity = n + 1 := ⟨t.capacity - 1, by have := t.capacity_pos; omega⟩
    rw [h, hn, List.take_succ_cons, ArgumentVector.tokens] at htokens
    exact ⟨args, rfl, (List.cons.inj htokens).1⟩

/-- A line opens with a text if its first word, which is the command, begins with it. If the text
behind it does not go on with that word, the words are the text and those behind it. -/
structure OpensWith (t : Tokenizer) (line : String) (opening : String) (after : List Char) :
    Prop where
  first : ∃ word rest, t.words (lineBody line.toList) = word :: rest ∧
    opening.toList <+: word.toList ∧ ∃ args, t.tokenize line = some args ∧ args.command = word
  whole : (∀ c ∈ after.head?, Text.isBlank c = true) →
    t.words (lineBody line.toList) = opening :: t.words after

/-- At blanks, a line opens with whatever word stands behind its first gap. -/
theorem opensWith_append {t : Tokenizer} (ht : t.mode = .whitespace) {gap after : List Char}
    {opening : String} (hgap : ∀ c ∈ gap, Text.isBlank c = true) (hne : opening ≠ "")
    (hword : ∀ c ∈ opening.toList, Text.isBlank c = false) :
    t.OpensWith (String.ofList (gap ++ opening.toList ++ after)) opening after := by
  have hwords :
      t.words (lineBody (String.ofList (gap ++ opening.toList ++ after)).toList) =
        String.ofList (opening.toList ++ after.takeWhile (!Text.isBlank ·)) ::
          t.words (after.dropWhile (!Text.isBlank ·)) := by
    rw [String.toList_ofList, words_lineBody ht, words_eq t ht, words_eq t ht, List.append_assoc,
      Text.words_gap_append hgap, Text.words_append (by simpa using hne) hword, List.map_cons]
  constructor
  · refine ⟨_, _, hwords, ?_, command_of_words ht hwords⟩
    rw [String.toList_ofList]
    exact List.prefix_append _ _
  · intro hafter
    rw [hwords]
    cases after with
    | nil => simp
    | cons c after => simp [hafter c rfl]

end Tokenizer

namespace Completion

/-- A command is completed from the names that the line before the cursor begins with, and from all
of them: from where its word starts on, in order, and so that the line opens with what was chosen.
Behind the first word there is nothing to complete. -/
theorem complete_command {m : Machine} (hm : m.files.WellFormed) (dir : Machine.NodeId)
    {builtins : List String} (hbuiltins : ∀ name ∈ builtins, name ≠ "") {line : String}
    {position : Nat} (hposition : Text.isBoundary line.toList position = true) :
    ∃ gap word after, Around line.toList position gap word after ∧
      ∃ completion,
        complete (commandNames builtins (m.searchedEntries dir)) line position = some completion ∧
        ((∃ c ∈ word, Text.isBlank c = true) → completion = ⟨position, []⟩) ∧
        ((∀ c ∈ word, Text.isBlank c = false) →
          completion.start = Text.byteLength gap ∧
          (∀ name, name ∈ completion.candidates ↔
            (name ∈ builtins ∨ m.Lists dir name) ∧ word <+: name.toList) ∧
          completion.candidates.Pairwise fun x y => Machine.bytesOf x < Machine.bytesOf y) ∧
        ∀ candidate ∈ completion.candidates,
          (∀ c ∈ candidate.toList, Text.isBlank c = false) →
          ∀ t : Tokenizer, t.mode = .whitespace →
            t.OpensWith (String.ofList (gap ++ candidate.toList ++ after)) candidate after := by
  obtain ⟨gap, word, after, haround⟩ := exists_around hposition
  refine ⟨gap, word, after, haround, _, haround.complete_eq, ?_, ?_, ?_⟩
  · intro hblank
    rw [if_pos (List.any_eq_true.2 hblank)]
  · intro hword
    have hany : word.any Text.isBlank = false := by simpa using hword
    simp only [hany, Bool.false_eq_true, ↓reduceIte, true_and]
    constructor
    · intro name
      rw [mem_startingWith, Machine.mem_commandNames_searchedEntries]
    · exact ((pairwise_commandNames _ _).imp bytesOf_lt_bytesOf).filter _
  · intro candidate hcandidate hblank t ht
    refine Tokenizer.opensWith_append ht haround.gap ?_ hblank
    split at hcandidate
    · cases hcandidate
    · have hmem := (mem_startingWith.1 hcandidate).1
      rcases Machine.mem_commandNames_searchedEntries.1 hmem with hb | hl
      · exact hbuiltins candidate hb
      · exact hl.ne_empty hm

/-- On a machine as it starts, the builtin is offered for the beginning of its name, behind a
blank. -/
theorem complete_command_exit :
    ∃ completion,
      complete (commandNames ["cd", "exit"]
        ((Machine.ofEnvironment [("PATH", "/usr/bin")]).searchedEntries Machine.FileTree.root))
        " ex" 3 = some completion ∧
      completion.start = 1 ∧ "exit" ∈ completion.candidates := by
  have hbuiltins : ∀ name ∈ ["cd", "exit"], name ≠ "" := by simp
  have hposition : Text.isBoundary " ex".toList 3 = true := by decide
  obtain ⟨gap, word, after, haround, completion, hcomplete, -, hword, -⟩ :=
    complete_command (m := Machine.ofEnvironment [("PATH", "/usr/bin")])
      Machine.wellFormed_firstFiles Machine.FileTree.root hbuiltins hposition
  have hsplit : some ([' ', 'e', 'x'], []) = some (gap ++ word, after) := haround.split
  obtain ⟨hbefore, rfl⟩ := Prod.mk.inj (Option.some.inj hsplit)
  obtain rfl : ['e', 'x'] = word := by rw [← haround.trimStart, ← hbefore]; rfl
  obtain rfl : [' '] = gap := List.append_cancel_right hbefore
  obtain ⟨hstart, hmem, -⟩ := hword (by simp [Text.isBlank])
  exact ⟨completion, hcomplete, hstart, (hmem "exit").2 ⟨.inl (by simp), by decide⟩⟩

end Completion

end LineShell
