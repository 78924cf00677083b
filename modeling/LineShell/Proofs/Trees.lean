import LineShell.Machine
import Mathlib.Logic.Relation

/-!
# Well-formed file trees

What stands above a directory is a directory, and every entry has a name. A change of a tree keeps
that, since it makes nodes and entries only where a path has led it. So every tree is well-formed
that changes lead to from the files that a machine starts with.
-/

namespace LineShell.Machine

namespace FileTree

/-- Above each directory is a directory, and no entry lacks a name. -/
structure WellFormed (t : FileTree) : Prop where
  above {id parent : NodeId} {entries : List (Path × NodeId)} :
    t.kind? id = some (.directory parent entries) → t.isDirectory parent = true
  named {id parent : NodeId} {entries : List (Path × NodeId)} :
    t.kind? id = some (.directory parent entries) → ∀ entry ∈ entries, entry.1 ≠ []

theorem isDirectory_iff {t : FileTree} {id : NodeId} :
    t.isDirectory id = true ↔
      ∃ parent entries, t.kind? id = some (.directory parent entries) := by
  unfold isDirectory
  split
  · next parent entries h => simp [h]
  · next h => simpa using h

theorem isDirectory_of_file {t : FileTree} {id : NodeId} {content : FileContent}
    (hk : t.kind? id = some (.file content)) : t.isDirectory id = false := by
  rw [isDirectory, hk]

theorem isDirectory_of_null {t : FileTree} {id : NodeId} (hk : t.kind? id = some .null) :
    t.isDirectory id = false := by
  rw [isDirectory, hk]

/-- A directory that a tree may get: it stands below a directory and names its entries. -/
def Admits (t : FileTree) (kind : NodeKind) : Prop :=
  ∀ parent entries, kind = .directory parent entries →
    t.isDirectory parent = true ∧ ∀ entry ∈ entries, entry.1 ≠ []

theorem WellFormed.admits {t : FileTree} (h : t.WellFormed) {id : NodeId} {kind : NodeKind}
    (hk : t.kind? id = some kind) : t.Admits kind := by
  rintro parent entries rfl
  exact ⟨h.above hk, h.named hk⟩

/-- A tree stays well-formed when its directories stay directories, and each kind in the new tree is
one that the old tree admits. -/
theorem WellFormed.of_admits {t t' : FileTree}
    (hdirs : ∀ id, t.isDirectory id = true → t'.isDirectory id = true)
    (hkinds : ∀ id kind, t'.kind? id = some kind → t.Admits kind) : t'.WellFormed where
  above hk := hdirs _ (hkinds _ _ hk _ _ rfl).1
  named hk := (hkinds _ _ hk _ _ rfl).2

/-! ## Changes of nodes -/

theorem kind?_setKind (t : FileTree) (id : NodeId) (kind : NodeKind) (other : NodeId) :
    (t.setKind id kind).kind? other =
      if other = id ∧ (t.kind? id).isSome then some kind else t.kind? other := by
  unfold setKind kind? node?
  cases h : t.nodes[id]? with
  | none => simp
  | some node =>
    have hlt := (Array.getElem?_eq_some_iff.1 h).1
    by_cases ho : other = id
    · subst ho
      simp [hlt]
    · simp [ho, Array.getElem?_setIfInBounds_ne (Ne.symm ho)]

theorem kind?_setMode (t : FileTree) (id : NodeId) (mode : Mode) (other : NodeId) :
    (t.setMode id mode).kind? other = t.kind? other := by
  unfold setMode kind? node?
  cases h : t.nodes[id]? with
  | none => rfl
  | some node =>
    have hlt := (Array.getElem?_eq_some_iff.1 h).1
    by_cases ho : other = id
    · subst ho
      simp [hlt, (Array.getElem?_eq_some_iff.1 h).2]
    · simp [Array.getElem?_setIfInBounds_ne (Ne.symm ho)]

theorem kind?_push (t : FileTree) (node : Node) (other : NodeId) :
    (FileTree.mk (t.nodes.push node)).kind? other =
      if other = t.nodes.size then some node.kind else t.kind? other := by
  unfold kind? node?
  rw [Array.getElem?_push]
  split <;> rfl

/-- Another kind may be put in the place of one, if a directory is replaced by a directory. -/
theorem WellFormed.setKind {t : FileTree} (h : t.WellFormed) {id : NodeId} {kind : NodeKind}
    (hdir : t.isDirectory id = true → ∃ parent entries, kind = .directory parent entries)
    (hkind : t.Admits kind) : (t.setKind id kind).WellFormed := by
  refine .of_admits (t := t) (fun other ho => ?_) fun other old hk => ?_
  · rw [isDirectory_iff] at ho ⊢
    rw [kind?_setKind]
    split
    · next hid =>
      obtain ⟨rfl, -⟩ := hid
      obtain ⟨parent, entries, rfl⟩ := hdir (isDirectory_iff.2 ho)
      exact ⟨parent, entries, rfl⟩
    · exact ho
  · rw [kind?_setKind] at hk
    split at hk
    · cases hk
      exact hkind
    · exact h.admits hk

theorem WellFormed.setMode {t : FileTree} (h : t.WellFormed) (id : NodeId) (mode : Mode) :
    (t.setMode id mode).WellFormed := by
  refine .of_admits (t := t) (fun other ho => ?_) fun other kind hk => ?_
  · rw [isDirectory_iff] at ho ⊢
    simpa only [kind?_setMode] using ho
  · rw [kind?_setMode] at hk
    exact h.admits hk

theorem WellFormed.push {t : FileTree} (h : t.WellFormed) {node : Node}
    (hnode : t.Admits node.kind) : (FileTree.mk (t.nodes.push node)).WellFormed := by
  refine .of_admits (t := t) (fun other ho => ?_) fun other kind hk => ?_
  · rw [isDirectory_iff] at ho ⊢
    obtain ⟨parent, entries, hk⟩ := ho
    have hlt : other < t.nodes.size := by
      refine Nat.lt_of_not_le fun hle => ?_
      rw [kind?, node?, Array.getElem?_eq_none hle] at hk
      cases hk
    exact ⟨parent, entries, by rw [kind?_push, if_neg (Nat.ne_of_lt hlt), hk]⟩
  · rw [kind?_push] at hk
    split at hk
    · cases hk
      exact hnode
    · exact h.admits hk

/-! ## Changes of entries -/

theorem WellFormed.addEntry {t : FileTree} (h : t.WellFormed) (dir : NodeId) {name : Path}
    (hname : name ≠ []) (id : NodeId) : (t.addEntry dir name id).WellFormed := by
  unfold FileTree.addEntry
  split
  · next parent entries hk =>
    refine h.setKind (fun _ => ⟨_, _, rfl⟩) ?_
    rintro _ _ ⟨⟩
    refine ⟨h.above hk, fun entry he => ?_⟩
    rcases List.mem_append.1 he with he | he
    · exact h.named hk entry he
    · obtain rfl := List.mem_singleton.1 he
      exact hname
  · exact h

theorem WellFormed.removeEntry {t : FileTree} (h : t.WellFormed) (dir : NodeId) (name : Path) :
    (t.removeEntry dir name).WellFormed := by
  unfold FileTree.removeEntry
  split
  · next parent entries hk =>
    refine h.setKind (fun _ => ⟨_, _, rfl⟩) ?_
    rintro _ _ ⟨⟩
    exact ⟨h.above hk, fun entry he => h.named hk entry (List.mem_filter.1 he).1⟩
  · exact h

theorem WellFormed.addNode {t : FileTree} (h : t.WellFormed) (dir : NodeId) {name : Path}
    (hname : name ≠ []) {node : Node} (hnode : t.Admits node.kind) :
    (t.addNode dir name node).WellFormed :=
  (h.push hnode).addEntry dir hname _

/-- Entries are added and removed without a change of what is a directory. -/
theorem isDirectory_setKind_directory {t : FileTree} {id : NodeId} (h : t.isDirectory id = true)
    (parent : NodeId) (entries : List (Path × NodeId)) (other : NodeId) :
    (t.setKind id (.directory parent entries)).isDirectory other = t.isDirectory other := by
  by_cases ho : other = id
  · subst ho
    obtain ⟨_, _, hk⟩ := isDirectory_iff.1 h
    rw [h, isDirectory, kind?_setKind, if_pos ⟨rfl, by rw [hk]; rfl⟩]
  · rw [isDirectory, kind?_setKind, if_neg fun hand => ho hand.1, isDirectory]

theorem isDirectory_addEntry (t : FileTree) (dir : NodeId) (name : Path) (id other : NodeId) :
    (t.addEntry dir name id).isDirectory other = t.isDirectory other := by
  unfold FileTree.addEntry
  split
  · next hk => exact isDirectory_setKind_directory (isDirectory_iff.2 ⟨_, _, hk⟩) _ _ _
  · rfl

theorem isDirectory_removeEntry (t : FileTree) (dir : NodeId) (name : Path) (other : NodeId) :
    (t.removeEntry dir name).isDirectory other = t.isDirectory other := by
  unfold FileTree.removeEntry
  split
  · next hk => exact isDirectory_setKind_directory (isDirectory_iff.2 ⟨_, _, hk⟩) _ _ _
  · rfl

/-! ## Where paths lead -/

/-- The names in a path. -/
def pathNames (path : Path) : List Path := (path.splitOn '/').filter (!·.isEmpty)

/-- The parts of a path are its names, and maybe a last part that stays where it is. -/
theorem pathParts_cases (path : Path) :
    pathParts path = pathNames path ∨ pathParts path = pathNames path ++ [['.']] := by
  unfold pathParts pathNames
  dsimp only
  split
  · exact .inr rfl
  · exact .inl rfl

theorem ne_nil_of_mem_pathNames {path name : Path} (h : name ∈ pathNames path) : name ≠ [] := by
  simpa using (List.mem_filter.1 h).2

theorem ne_nil_of_mem_pathParts {path name : Path} (h : name ∈ pathParts path) : name ≠ [] := by
  rcases pathParts_cases path with hp | hp <;> rw [hp] at h
  · exact ne_nil_of_mem_pathNames h
  · rcases List.mem_append.1 h with h | h
    · exact ne_nil_of_mem_pathNames h
    · obtain rfl := List.mem_singleton.1 h
      exact List.cons_ne_nil _ _

/-- A walk stops at a missing entry only with a name from a path. -/
theorem ne_nil_of_walk {t : FileTree} {follow : Bool} {links : Nat} {dir : NodeId}
    {names : List Path} (hnames : ∀ name ∈ names, name ≠ []) {parent : NodeId} {name : Path}
    (h : t.walk follow links dir names = .ok (.vacant parent name)) : name ≠ [] := by
  have htail {first : Path} {rest : List Path} (h : ∀ name ∈ first :: rest, name ≠ []) :
      ∀ name ∈ rest, name ≠ [] := fun name hm => h name (List.mem_cons_of_mem _ hm)
  fun_induction walk t follow links dir names with
  | case4 | case5 | case11 =>
    rename_i ih
    exact ih (htail hnames) h
  | case6 links dir missing rest =>
    cases h
    exact hnames name (by simp)
  | case10 =>
    rename_i ih
    -- A link puts the parts of its target in the place of its name.
    refine ih (fun name hm => ?_) h
    rcases List.mem_append.1 hm with hm | hm
    · exact ne_nil_of_mem_pathParts hm
    · exact htail hnames name hm
  | _ => cases h

theorem ne_nil_of_locate {t : FileTree} {follow : Bool} {dir parent : NodeId} {path name : Path}
    (h : t.locate follow dir path = .ok (.vacant parent name)) : name ≠ [] := by
  unfold locate at h
  repeat' split at h
  all_goals try cases h
  exact ne_nil_of_walk (fun _ => ne_nil_of_mem_pathParts) h

/-- The last name of a path is looked up in a directory. -/
theorem entryAt_spec {t : FileTree} {dir parent : NodeId} {path name : Path}
    {found : Option NodeId} (h : t.entryAt dir path = .ok (parent, name, found)) :
    t.isDirectory parent = true ∧ name ≠ [] := by
  unfold entryAt at h
  split at h
  · cases h
  split at h
  · cases h
  split at h
  · cases h
  next last before hparts =>
  have hlast : last ∈ pathParts (withoutTrailingSlashes path) := by
    rw [← List.mem_reverse, hparts]
    exact List.mem_cons_self
  split at h
  · cases h
  · cases h
  next above habove =>
  split at h
  · cases h
  next hdir =>
  have hdir : t.isDirectory above = true := by simpa using hdir
  repeat' split at h
  all_goals cases h
  all_goals exact ⟨hdir, ne_nil_of_mem_pathParts hlast⟩

/-! ## Changes at paths -/

/-- A file is no directory, so that a tree admits it anywhere. -/
theorem admits_file (t : FileTree) (content : FileContent) : t.Admits (.file content) := by
  rintro _ _ ⟨⟩

section

variable {t t' : FileTree} {dir : NodeId} {path : Path}

theorem WellFormed.create (h : t.WellFormed) {node : NodeId → Node}
    (hnode : ∀ parent, t.isDirectory parent = true → t.Admits (node parent).kind)
    (hc : t.create dir path node = .ok t') : t'.WellFormed := by
  unfold FileTree.create at hc
  split at hc
  · cases hc
  · cases hc
  next parent name hentry =>
  obtain ⟨hdir, hname⟩ := entryAt_spec hentry
  dsimp only at hc
  repeat' split at hc
  all_goals cases hc
  all_goals exact h.addNode _ hname (hnode parent hdir)

theorem WellFormed.makeDirectory (h : t.WellFormed) {mode : Mode}
    (hc : t.makeDirectory dir path mode = .ok t') : t'.WellFormed := by
  refine h.create (fun parent hdir => ?_) hc
  rintro _ _ ⟨⟩
  exact ⟨hdir, nofun⟩

theorem WellFormed.makeSymlink (h : t.WellFormed) {target : Path}
    (hc : t.makeSymlink dir path target = .ok t') : t'.WellFormed := by
  unfold FileTree.makeSymlink at hc
  split at hc
  · cases hc
  · exact h.create (fun _ _ => by rintro _ _ ⟨⟩) hc

/-- A file may be put in the place of a file. -/
theorem WellFormed.setFile (h : t.WellFormed) {id : NodeId} (hid : t.isDirectory id = false)
    (content : FileContent) : (t.setKind id (.file content)).WellFormed :=
  h.setKind (fun hdir => by rw [hid] at hdir; cases hdir) (t.admits_file _)

theorem WellFormed.setContent (h : t.WellFormed) (id : NodeId) (data : Octets) :
    (t.setContent id data).WellFormed := by
  unfold FileTree.setContent
  split
  · next old hk => exact h.setFile (isDirectory_of_file hk) _
  · exact h

/-- What is opened for writing is no directory. -/
theorem WellFormed.openForWriting (h : t.WellFormed) {mode : Mode} {truncate : Bool} {id : NodeId}
    (hc : t.openForWriting dir path mode truncate = .ok (t', id)) :
    t'.WellFormed ∧ t'.isDirectory id = false := by
  have hkind {node : Node} {kind : NodeKind} (hid : t.node? id = some node)
      (hk : node.kind = kind) : t.kind? id = some kind := by rw [kind?, hid, Option.map_some, hk]
  unfold FileTree.openForWriting at hc
  split at hc
  · repeat' split at hc
    all_goals cases hc
  split at hc
  · cases hc
  · next parent name hlocate =>
    split at hc
    · cases hc
    · cases hc
      refine ⟨h.addNode _ (ne_nil_of_locate hlocate) (t.admits_file _), ?_⟩
      rw [FileTree.addNode, isDirectory_addEntry]
      have hk : (FileTree.mk (t.nodes.push ⟨.file (.bytes []), mode⟩)).kind? t.nodes.size =
          some (.file (.bytes [])) := by rw [kind?_push, if_pos rfl]
      exact isDirectory_of_file hk
  · next found hlocate =>
    split at hc
    · next content old hid =>
      split at hc
      · cases hc
      cases hc
      have hk := hkind hid rfl
      have hdir := isDirectory_of_file hk
      split
      · have hempty : (t.setKind id (.file (.bytes []))).kind? id = some (.file (.bytes [])) := by
          rw [kind?_setKind, if_pos ⟨rfl, by rw [hk]; rfl⟩]
        exact ⟨h.setFile hdir _, isDirectory_of_file hempty⟩
      · exact ⟨h, hdir⟩
    · next old hid =>
      cases hc
      exact ⟨h, isDirectory_of_null (hkind hid rfl)⟩
    · cases hc

theorem WellFormed.removeDirectory (h : t.WellFormed)
    (hc : t.removeDirectory dir path = .ok t') : t'.WellFormed := by
  unfold FileTree.removeDirectory at hc
  repeat' split at hc
  all_goals cases hc
  all_goals exact h.removeEntry _ _

theorem WellFormed.removeFile (h : t.WellFormed)
    (hc : t.removeFile dir path = .ok t') : t'.WellFormed := by
  unfold FileTree.removeFile at hc
  repeat' split at hc
  all_goals cases hc
  all_goals exact h.removeEntry _ _

theorem WellFormed.link (h : t.WellFormed) {id : NodeId}
    (hc : t.link dir id path = .ok t') : t'.WellFormed := by
  unfold FileTree.link at hc
  split at hc
  · cases hc
  · cases hc
  next parent name hentry =>
  repeat' split at hc
  all_goals cases hc
  all_goals exact h.addEntry _ (entryAt_spec hentry).2 _

/-- A directory that is moved stands below the directory that it was moved to. -/
theorem WellFormed.moved (h : t.WellFormed) {id fromDir toDir : NodeId} {fromName toName : Path}
    (hdir : t.isDirectory toDir = true) (hname : toName ≠ []) :
    (t.moved id fromDir fromName toDir toName).WellFormed := by
  have h' := ((h.removeEntry fromDir fromName).removeEntry toDir toName).addEntry toDir hname id
  unfold FileTree.moved
  dsimp only
  split
  · next above entries hk =>
    refine h'.setKind (fun _ => ⟨_, _, rfl⟩) ?_
    rintro _ _ ⟨⟩
    refine ⟨?_, h'.named hk⟩
    rw [isDirectory_addEntry, isDirectory_removeEntry, isDirectory_removeEntry, hdir]
  · exact h'

theorem WellFormed.rename (h : t.WellFormed) {source target : Path}
    (hc : t.rename dir source target = .ok t') : t'.WellFormed := by
  unfold FileTree.rename at hc
  split at hc
  · cases hc
  · cases hc
  · cases hc
  next hentry =>
  obtain ⟨hdir, hname⟩ := entryAt_spec hentry
  dsimp only at hc
  repeat' split at hc
  all_goals cases hc
  all_goals first
    | exact h
    | exact h.moved hdir hname

theorem WellFormed.makeDirectories (h : t.WellFormed) {mode : Mode}
    (hc : t.makeDirectories dir path mode = .ok t') : t'.WellFormed := by
  unfold FileTree.makeDirectories at hc
  unfold Except.map at hc
  split at hc
  · cases hc
  next made hfold =>
  cases hc
  revert made hfold
  -- However far the directories have been made, the tree is well-formed.
  refine List.foldlRecOn (motive := fun sofar : Except IoError (FileTree × NodeId) =>
    ∀ made, sofar = .ok made → made.1.WellFormed) _ _ ?_ ?_
  · rintro _ ⟨⟩
    exact h
  · intro sofar ih name _ made hmade
    split at hmade
    · cases hmade
    next before last =>
    have hbefore : before.WellFormed := ih _ rfl
    split at hmade
    · cases hmade
      exact hbefore
    · split at hmade
      · cases hmade
      · next hmk =>
        cases hmade
        exact hbefore.makeDirectory hmk
    · cases hmade

theorem WellFormed.putFile (h : t.WellFormed) {content : FileContent} {executable : Bool}
    (hc : t.putFile dir path content executable = .ok t') : t'.WellFormed := by
  unfold FileTree.putFile at hc
  split at hc
  · cases hc
  next made hmade =>
  split at hc
  · cases hc
  next opened id hopened =>
  cases hc
  obtain ⟨hwf, hid⟩ := (h.makeDirectories hmade).openForWriting hopened
  exact (hwf.setFile hid content).setMode _ _

theorem WellFormed.putSymlink (h : t.WellFormed) {target : Path}
    (hc : t.putSymlink dir path target = .ok t') : t'.WellFormed := by
  unfold FileTree.putSymlink at hc
  split at hc
  · cases hc
  · next hmade => exact (h.makeDirectories hmade).makeSymlink hc

end

/-- The root alone is well-formed. -/
theorem wellFormed_empty : empty.WellFormed := by
  have hkind {id : NodeId} {kind : NodeKind} (hk : empty.kind? id = some kind) :
      kind = .directory 0 [] := by
    cases id with
    | zero => exact (Option.some.inj hk).symm
    | succ id => cases hk
  refine .of_admits (t := empty) (fun _ => id) fun id kind hk => ?_
  obtain rfl := hkind hk
  rintro _ _ ⟨⟩
  exact ⟨rfl, nofun⟩

/-- A change that may fail keeps a tree well-formed if it does so where it succeeds. -/
theorem WellFormed.getD {t : FileTree} (h : t.WellFormed) {result : Except IoError FileTree}
    (hr : ∀ t', result = .ok t' → t'.WellFormed) : (result.toOption.getD t).WellFormed := by
  cases result with
  | error e => exact h
  | ok t' => exact hr t' rfl

/-- A change of a tree: what a program of a machine does to its files in one step, or what is put
there before a program runs. -/
inductive Change (t : FileTree) : FileTree → Prop
  | makeDirectory {dir path mode t'} : t.makeDirectory dir path mode = .ok t' → Change t t'
  | makeSymlink {dir path target t'} : t.makeSymlink dir path target = .ok t' → Change t t'
  | openForWriting {dir path mode truncate t' id} :
    t.openForWriting dir path mode truncate = .ok (t', id) → Change t t'
  | setContent (id : NodeId) (data : Octets) : Change t (t.setContent id data)
  | setFile {id} (content : FileContent) :
    t.isDirectory id = false → Change t (t.setKind id (.file content))
  | setMode (id : NodeId) (mode : Mode) : Change t (t.setMode id mode)
  | removeDirectory {dir path t'} : t.removeDirectory dir path = .ok t' → Change t t'
  | removeFile {dir path t'} : t.removeFile dir path = .ok t' → Change t t'
  | link {dir id path t'} : t.link dir id path = .ok t' → Change t t'
  | rename {dir source target t'} : t.rename dir source target = .ok t' → Change t t'
  | putFile {dir path content executable t'} :
    t.putFile dir path content executable = .ok t' → Change t t'
  | putSymlink {dir path target t'} : t.putSymlink dir path target = .ok t' → Change t t'

/-- A change keeps a tree well-formed. -/
theorem WellFormed.change {t t' : FileTree} (h : t.WellFormed) (hc : t.Change t') :
    t'.WellFormed := by
  cases hc with
  | makeDirectory hc => exact h.makeDirectory hc
  | makeSymlink hc => exact h.makeSymlink hc
  | openForWriting hc => exact (h.openForWriting hc).1
  | setContent id data => exact h.setContent id data
  | setFile content hid => exact h.setFile hid content
  | setMode id mode => exact h.setMode id mode
  | removeDirectory hc => exact h.removeDirectory hc
  | removeFile hc => exact h.removeFile hc
  | link hc => exact h.link hc
  | rename hc => exact h.rename hc
  | putFile hc => exact h.putFile hc
  | putSymlink hc => exact h.putSymlink hc

end FileTree

open FileTree in
/-- The files that a machine starts with are well-formed. -/
theorem wellFormed_firstFiles : firstFiles.WellFormed := by
  have hprogram {t : FileTree} (h : t.WellFormed) (name : String) (tool : Tool) :
      ((t.putFile root (Octets.ofString ("/usr/bin/" ++ name)) (.tool tool) true).toOption.getD
        t).WellFormed := h.getD fun _ => h.putFile
  have hdirectories := List.foldlRecOn (motive := WellFormed) firstDirectories
    (fun t path => (t.makeDirectories root (Octets.ofString path) 0o755).toOption.getD t)
    wellFormed_empty fun t h path _ => h.getD fun _ => h.makeDirectories
  have hprograms := List.foldlRecOn (motive := WellFormed) Tool.all _ hdirectories
    fun t h tool _ => hprogram h tool.name tool
  have hlinks := List.foldlRecOn (motive := WellFormed) firstLinks
    (fun t link =>
      (t.makeSymlink root (Octets.ofString link.1) (Octets.ofString link.2)).toOption.getD t)
    (hprogram hprograms "dash" .sh) fun t h link _ => h.getD fun _ => h.makeSymlink
  exact hlinks.getD fun _ => hlinks.create fun _ _ => by rintro _ _ ⟨⟩

/-- However the files of a machine have been changed since it started, they are well-formed. -/
theorem wellFormed_of_changes {t : FileTree}
    (h : Relation.ReflTransGen FileTree.Change firstFiles t) : t.WellFormed := by
  induction h with
  | refl => exact wellFormed_firstFiles
  | tail _ hc ih => exact ih.change hc

end LineShell.Machine
