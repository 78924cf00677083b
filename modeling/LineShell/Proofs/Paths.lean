import LineShell.Proofs.ByteOrder
import LineShell.Proofs.StrictDecoding
import LineShell.Proofs.Trees

/-!
# A name below a directory

A path that goes on with one more name leads through the place where the path without it leads. So
whatever file such a path finds, the directory at its beginning has an entry for it.
-/

namespace LineShell

/-- A byte below 128 is a character by itself, and part of no other one. -/
theorem Text.Utf8.eq_of_mem_encodeChar {c : Char} {b : UInt8}
    (h : b ∈ String.utf8EncodeChar c) (hb : b.toNat < 0x80) : c.toNat = b.toNat := by
  rw [encodeChar_eq] at h
  generalize c.toNat = n at *
  repeat' split at h
  all_goals
    simp only [List.mem_cons, List.not_mem_nil, or_false, ← UInt8.toNat_inj, toNat_tailByte,
      UInt8.toNat_ofNat'] at h
    omega

namespace Machine

/-! ## Names as octets -/

namespace Octets

theorem toBytes_ofBytes (bytes : List UInt8) : toBytes (ofBytes bytes) = bytes := by
  have hbyte (b : UInt8) : UInt8.ofNat (Char.ofNat b.toNat).toNat = b := by
    have hlt := b.toNat_lt
    rw [Text.Utf8.toNat_ofNat_of_valid (.inl (by omega)), UInt8.ofNat_toNat]
  rw [toBytes, ofBytes, List.map_map]
  exact (List.map_congr_left fun b _ => hbyte b).trans (List.map_id _)

theorem toBytes_ofString (text : String) :
    toBytes (ofString text) = Text.Utf8.encode text.toList := toBytes_ofBytes _

theorem ofString_injective {x y : String} (h : ofString x = ofString y) : x = y := by
  have hbytes : Text.Utf8.encode x.toList = Text.Utf8.encode y.toList := by
    rw [← toBytes_ofString, h, toBytes_ofString]
  have htext := Text.Utf8.decode?_encode x.toList
  rw [hbytes, Text.Utf8.decode?_encode] at htext
  exact (String.toList_inj.1 (Option.some.inj htext)).symm

theorem ofString_ne_nil {text : String} (h : text ≠ "") : ofString text ≠ [] :=
  fun hnil => h (ofString_injective (hnil.trans rfl))

/-- No byte of another character is that of a slash. -/
theorem slash_mem_ofString {text : String} (h : '/' ∈ ofString text) : '/' ∈ text.toList := by
  obtain ⟨b, hb, hslash⟩ := List.mem_map.1 h
  obtain ⟨c, hc, hbc⟩ := List.mem_flatMap.1 hb
  have hlt := b.toNat_lt
  have hcode : b.toNat = '/'.toNat := by
    rw [← hslash, Text.Utf8.toNat_ofNat_of_valid (.inl (by omega))]
  have hchar := Text.Utf8.eq_of_mem_encodeChar hbc (by rw [hcode]; decide)
  obtain rfl : c = '/' := Char.toNat_inj.1 (hchar.trans hcode)
  exact hc

end Octets

/-! ## The names in a path -/

theorem pathNames_append_slash {name : Path} (hne : name ≠ []) (hslash : '/' ∉ name)
    (directory : Path) :
    FileTree.pathNames (directory ++ '/' :: name) = FileTree.pathNames directory ++ [name] := by
  have hone : name.splitOn '/' = [name] := List.splitOnP_eq_singleton fun c hc => by
    simpa using fun h : c = '/' => hslash (h ▸ hc)
  have hsplit : (directory ++ '/' :: name).splitOn '/' =
      directory.splitOn '/' ++ name.splitOn '/' := List.splitOnP_append_cons _ _ (by simp)
  rw [FileTree.pathNames, hsplit, hone, List.filter_append, FileTree.pathNames]
  simp [hne]

theorem pathParts_append_slash {name : Path} (hne : name ≠ []) (hslash : '/' ∉ name)
    (directory : Path) :
    pathParts (directory ++ '/' :: name) = FileTree.pathNames directory ++ [name] := by
  have hend : endsWithSlash (directory ++ '/' :: name) = false := by
    rw [endsWithSlash, List.getLast?_append]
    cases hlast : name.getLast? with
    | none => exact absurd (List.getLast?_eq_none_iff.1 hlast) hne
    | some c =>
      have hc : c ≠ '/' := fun h => hslash (h ▸ List.mem_of_getLast? hlast)
      simp [List.getLast?_cons, hlast, hc]
  have hnames := pathNames_append_slash hne hslash directory
  unfold FileTree.pathNames at hnames
  rw [pathParts, hnames]
  simp [hend, FileTree.pathNames]

theorem isAbsolute_append {directory : Path} (h : directory ≠ []) (rest : Path) :
    isAbsolute (directory ++ rest) = isAbsolute directory := by
  cases directory with
  | nil => exact absurd rfl h
  | cons c directory => rfl

namespace FileTree

/-! ## Walks -/

@[simp] theorem walk_nil (t : FileTree) (follow : Bool) (links : Nat) (dir : NodeId) :
    t.walk follow links dir [] = .ok (.node dir) := by
  rw [walk]

/-- A directory that a walk may pass through. -/
structure Passable (t : FileTree) (dir parent : NodeId) (entries : List (Path × NodeId)) :
    Prop where
  kind_eq : t.kind? dir = some (.directory parent entries)
  mayExecute : (t.mode dir).mayExecute = true

/-- A walk that does not fail at a name passes through the directory that it is in. -/
theorem passable_of_walk {t : FileTree} {links : Nat} {dir : NodeId} {name : Path}
    {rest : List Path} {place : Place} (h : t.walk true links dir (name :: rest) = .ok place) :
    name.length ≤ longestName ∧ ∃ parent entries, t.Passable dir parent entries := by
  rw [walk] at h
  split at h
  · next parent entries mode hdir =>
    split at h
    · cases h
    next hlong =>
    split at h
    · cases h
    next hpass =>
    refine ⟨by omega, parent, entries, ?_, ?_⟩
    · rw [kind?, hdir, Option.map_some]
    · rw [FileTree.mode, hdir]
      simpa using hpass
  · cases h

section

variable {t : FileTree} {links : Nat} {dir parent id : NodeId} {entries : List (Path × NodeId)}
  {name target : Path}

theorem Passable.node_eq (h : t.Passable dir parent entries) :
    ∃ mode, t.node? dir = some ⟨.directory parent entries, mode⟩ ∧ mode.mayExecute = true := by
  obtain ⟨⟨kind, mode⟩, hnode, rfl⟩ := Option.map_eq_some_iff.1 h.kind_eq
  have hpass := h.mayExecute
  rw [FileTree.mode, hnode] at hpass
  exact ⟨mode, hnode, hpass⟩

theorem Passable.walk_dot (h : t.Passable dir parent entries) (rest : List Path) :
    t.walk true links dir (['.'] :: rest) = t.walk true links dir rest := by
  obtain ⟨mode, hnode, hpass⟩ := h.node_eq
  rw [walk, hnode]
  simp [hpass, longestName]

theorem Passable.walk_dots (h : t.Passable dir parent entries) (rest : List Path) :
    t.walk true links dir (['.', '.'] :: rest) = t.walk true links parent rest := by
  obtain ⟨mode, hnode, hpass⟩ := h.node_eq
  rw [walk, hnode]
  simp [hpass, longestName]

variable (h : t.Passable dir parent entries) (hname : name.length ≤ longestName)
  (hdot : name ≠ ['.']) (hdots : name ≠ ['.', '.'])

include h hname hdot hdots

theorem Passable.walk_missing (hid : entries.lookup name = none) (rest : List Path) :
    t.walk true links dir (name :: rest) =
      if rest.isEmpty then .ok (.vacant dir name) else .error .noSuchFile := by
  obtain ⟨mode, hnode, hpass⟩ := h.node_eq
  rw [walk, hnode]
  simp [hpass, Nat.not_lt.2 hname, hdot, hdots, hid]

theorem Passable.walk_noLinks (hid : entries.lookup name = some id)
    (hk : t.kind? id = some (.symlink target)) (rest : List Path) :
    t.walk true 0 dir (name :: rest) = .error .tooManyLinks := by
  obtain ⟨mode, hnode, hpass⟩ := h.node_eq
  rw [walk, hnode]
  simp [hpass, Nat.not_lt.2 hname, hdot, hdots, hid, hk]

theorem Passable.walk_link (hid : entries.lookup name = some id)
    (hk : t.kind? id = some (.symlink target)) (rest : List Path) :
    t.walk true (links + 1) dir (name :: rest) =
      t.walk true links (if isAbsolute target then root else dir) (pathParts target ++ rest) := by
  obtain ⟨mode, hnode, hpass⟩ := h.node_eq
  rw [walk, hnode]
  simp [hpass, Nat.not_lt.2 hname, hdot, hdots, hid, hk]

theorem Passable.walk_entry (hid : entries.lookup name = some id)
    (hk : ∀ target, t.kind? id ≠ some (.symlink target)) (rest : List Path) :
    t.walk true links dir (name :: rest) = t.walk true links id rest := by
  obtain ⟨mode, hnode, hpass⟩ := h.node_eq
  rw [walk, hnode]
  -- That the entry is no link, `hk`, tells which case of the walk it is.
  simp [hpass, Nat.not_lt.2 hname, hdot, hdots, hid]

end

/-- If a walk along some names and more comes to an end, then it comes from the names to a place
from which it goes on with what follows them, whatever that is. -/
theorem walk_append {t : FileTree} {links : Nat} {dir : NodeId} {names rest : List Path}
    {place : Place} (hrest : rest ≠ []) (h : t.walk true links dir (names ++ rest) = .ok place) :
    ∃ left mid, ∀ rest, t.walk true links dir (names ++ rest) = t.walk true left mid rest := by
  match names with
  | [] => exact ⟨links, dir, fun _ => rfl⟩
  | name :: names =>
    simp only [List.cons_append] at h ⊢
    obtain ⟨hname, parent, entries, hdir⟩ := passable_of_walk h
    by_cases hdot : name = ['.']
    · subst hdot
      simp only [hdir.walk_dot] at h ⊢
      exact walk_append hrest h
    by_cases hdots : name = ['.', '.']
    · subst hdots
      simp only [hdir.walk_dots] at h ⊢
      exact walk_append hrest h
    cases hid : entries.lookup name with
    | none => simp [hdir.walk_missing hname hdot hdots hid, hrest] at h
    | some id =>
      by_cases hlink : ∃ target, t.kind? id = some (.symlink target)
      · obtain ⟨target, hk⟩ := hlink
        cases links with
        | zero =>
          rw [hdir.walk_noLinks hname hdot hdots hid hk] at h
          cases h
        | succ links =>
          simp only [hdir.walk_link hname hdot hdots hid hk, ← List.append_assoc] at h ⊢
          exact walk_append hrest h
      · have hk : ∀ target, t.kind? id ≠ some (.symlink target) := fun target hk =>
          hlink ⟨target, hk⟩
        simp only [hdir.walk_entry hname hdot hdots hid hk] at h ⊢
        exact walk_append hrest h
termination_by (links, names.length)

/-- What is no directory is found under a name only if the directory has an entry for it: the thing
itself, or a symbolic link. -/
theorem WellFormed.entry_of_walk {t : FileTree} (ht : t.WellFormed) {links : Nat}
    {dir id : NodeId} {name : Path} (hid : t.isDirectory id = false)
    (h : t.walk true links dir [name] = .ok (.node id)) :
    ∃ parent entries, t.Passable dir parent entries ∧
      ∃ node, (name, node) ∈ entries ∧ (node = id ∨ t.kindOf node = .symlink) := by
  obtain ⟨hname, parent, entries, hdir⟩ := passable_of_walk h
  refine ⟨parent, entries, hdir, ?_⟩
  have hend {place : NodeId} (hp : t.isDirectory place = true) :
      t.walk true links place [] ≠ .ok (.node id) := by
    rw [walk_nil]
    rintro ⟨⟩
    rw [hp] at hid
    cases hid
  by_cases hdot : name = ['.']
  · subst hdot
    rw [hdir.walk_dot] at h
    exact absurd h (hend (isDirectory_iff.2 ⟨_, _, hdir.kind_eq⟩))
  by_cases hdots : name = ['.', '.']
  · subst hdots
    rw [hdir.walk_dots] at h
    exact absurd h (hend (ht.above hdir.kind_eq))
  cases hnode : entries.lookup name with
  | none =>
    rw [hdir.walk_missing hname hdot hdots hnode] at h
    cases h
  | some node =>
    have hmem : (name, node) ∈ entries := by
      obtain ⟨before, after, rfl, -⟩ := List.lookup_eq_some_iff.1 hnode
      simp
    refine ⟨node, hmem, ?_⟩
    by_cases hlink : ∃ target, t.kind? node = some (.symlink target)
    · obtain ⟨target, hk⟩ := hlink
      exact .inr (by simp [kindOf, hk])
    · rw [hdir.walk_entry hname hdot hdots hnode fun target hk => hlink ⟨target, hk⟩, walk_nil] at h
      cases h
      exact .inl rfl

end FileTree

/-! ## Files below a directory -/

/-- An executable file is a file. -/
theorem resolve_of_executableAt {t : FileTree} {dir : NodeId} {path : Path} {content : FileContent}
    (h : executableAt t dir path = .ok content) :
    ∃ id, t.resolve true dir path = .ok id ∧ t.kind? id = some (.file content) := by
  unfold executableAt at h
  split at h
  · cases h
  next id hid =>
  split at h
  · next found mode hnode =>
    split at h
    · cases h
      exact ⟨id, hid, by rw [FileTree.kind?, hnode, Option.map_some]⟩
    · cases h
  · cases h

theorem resolve_eq_ok {t : FileTree} {dir id : NodeId} {path : Path} :
    t.resolve true dir path = .ok id ↔
      path ≠ [] ∧ path.length < longestPath ∧
        t.walk true mostLinks (FileTree.start dir path) (pathParts path) = .ok (.node id) := by
  unfold FileTree.resolve FileTree.locate
  by_cases hempty : path = []
  · simp [hempty]
  by_cases hlong : longestPath ≤ path.length
  · simp [hempty, hlong, Nat.not_lt.2 hlong]
  rw [if_neg (by simpa using hempty), if_neg hlong]
  have hlt : path.length < longestPath := Nat.lt_of_not_le hlong
  cases t.walk true mostLinks (FileTree.start dir path) (pathParts path) with
  | error e => simp
  | ok place => cases place <;> simp [hempty, hlt]

/-- An executable file that is found under a name in a directory is an entry of the directory, or is
reached through a symbolic link that is one. -/
theorem FileTree.WellFormed.lists_executable {t : FileTree} (ht : t.WellFormed) {dir : NodeId}
    {directory name : Path} (hdirectory : directory ≠ []) (hname : name ≠ []) (hslash : '/' ∉ name)
    {content : FileContent} (h : executableAt t dir (directory ++ '/' :: name) = .ok content) :
    ∃ id, t.resolveDirectory dir directory = .ok id ∧
      ∃ node, (name, node) ∈ t.entries id ∧ (t.kindOf node = .file ∨ t.kindOf node = .symlink) := by
  obtain ⟨id, hresolve, hfile⟩ := resolve_of_executableAt h
  obtain ⟨-, hlength, hwalk⟩ := resolve_eq_ok.1 hresolve
  have hid := FileTree.isDirectory_of_file hfile
  rw [pathParts_append_slash hname hslash, FileTree.start, isAbsolute_append hdirectory] at hwalk
  obtain ⟨left, mid, hmid⟩ := FileTree.walk_append (List.cons_ne_nil name []) hwalk
  rw [hmid] at hwalk
  obtain ⟨parent, entries, hpass, node, hnode, hkind⟩ := ht.entry_of_walk hid hwalk
  -- The path of the directory is its names, or its names and a last part that stays there.
  have hparts : t.walk true mostLinks (FileTree.start dir directory) (pathParts directory) =
      .ok (.node mid) := by
    rcases pathParts_cases directory with hp | hp <;> rw [hp]
    · have hnames := hmid []
      rwa [List.append_nil, FileTree.walk_nil] at hnames
    · rw [FileTree.start, hmid, hpass.walk_dot, FileTree.walk_nil]
  have hresolved : t.resolve true dir directory = .ok mid := by
    rw [List.length_append] at hlength
    exact resolve_eq_ok.2 ⟨hdirectory, by omega, hparts⟩
  have hmid : t.isDirectory mid = true := FileTree.isDirectory_iff.2 ⟨_, _, hpass.kind_eq⟩
  refine ⟨mid, by simp [FileTree.resolveDirectory, hresolved, hmid], node, ?_, ?_⟩
  · simpa [FileTree.entries, hpass.kind_eq] using hnode
  · rcases hkind with rfl | hkind
    · exact .inl (by simp [FileTree.kindOf, hfile])
    · exact .inr hkind

end Machine

end LineShell
