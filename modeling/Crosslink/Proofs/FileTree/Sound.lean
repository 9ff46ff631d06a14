import Mathlib.Data.List.Induction
import Mathlib.Data.List.Nodup
import Crosslink.Proofs.FileTree.Planting

/-!
# Sound file trees

A file tree as a file system can hold it: no two entries have the same names, every name is one
that a file can have, and all that is not at the top lies in a directory. In such a tree the names
of an entry lead to it, also from a directory on the way, and a path through a directory reads
exactly the files that lie below it.
-/

namespace Crosslink.FileTree

/-- A name that a file or a directory can have. -/
def IsName (name : String) : Prop :=
  name ∉ ["", ".", ".."] ∧ '/' ∉ name.toList ∧ '\x00' ∉ name.toList ∧
    name.utf8ByteSize ≤ nameLimit

instance (name : String) : Decidable (IsName name) :=
  inferInstanceAs (Decidable (_ ∧ _))

/-- The entries make up a tree of directories and files. -/
structure Sound (tree : FileTree) : Prop where
  distinct : (tree.entries.map (·.1)).Nodup
  named : ∀ e ∈ tree.entries, e.1 ≠ [] ∧ ∀ name ∈ e.1, IsName name
  closed : ∀ e ∈ tree.entries, e.1.dropLast = [] ∨ (e.1.dropLast, .directory) ∈ tree.entries

instance (tree : FileTree) : Decidable tree.Sound :=
  decidable_of_iff (_ ∧ _ ∧ _) ⟨fun h => ⟨h.1, h.2.1, h.2.2⟩, fun h => ⟨h.1, h.2, h.3⟩⟩

variable {tree : FileTree} {here names rest : List String} {entry : Entry}

theorem IsName.ne_up {name : String} (h : IsName name) : name ≠ ".." := by
  rintro rfl
  exact h.1 (by decide)

/-- A file that is found is an entry. -/
theorem mem_of_find?_file {bytes : List UInt8} (h : tree.find? names = some (.file bytes)) :
    (names, .file bytes) ∈ tree.entries := by
  rw [find?] at h
  split at h
  · cases h
  · obtain ⟨e, he, hfile⟩ := Option.map_eq_some_iff.mp h
    obtain rfl : e.1 = names := by simpa using List.find?_some he
    rw [← hfile]
    exact List.mem_of_find?_eq_some he

/-! ## Walks -/

/-- How names lead on: up, to their last name, or through a directory. -/
theorem walk_cons_iff {name : String} {there : List String} :
    tree.walk here (name :: rest) = .ok there ↔
      (name = ".." ∧ tree.walk (above here) rest = .ok there) ∨
        (name ≠ ".." ∧ name.utf8ByteSize ≤ nameLimit ∧
          (rest = [] ∧ there = here ++ [name] ∨
            rest ≠ [] ∧ tree.find? (here ++ [name]) = some .directory ∧
              tree.walk (here ++ [name]) rest = .ok there)) := by
  rw [walk]
  by_cases hup : name = ".."
  · simp [hup]
  by_cases hlong : nameLimit < name.utf8ByteSize
  · simp [hup, hlong, Nat.not_le.mpr hlong]
  have hfits : name.utf8ByteSize ≤ nameLimit := Nat.not_lt.mp hlong
  cases rest with
  | nil => simp [hup, hlong, hfits, @eq_comm _ there]
  | cons other rest =>
    cases hfound : tree.find? (here ++ [name]) with
    | none => simp [hup, hlong, hfound]
    | some entry => cases entry <;> simp [hup, hlong, hfits, hfound]

/-- Names lead to their goal or nowhere. -/
theorem goal_of_walk {there : List String} (h : tree.walk here names = .ok there) :
    there = goal here names := by
  induction names generalizing here with
  | nil => exact (Except.ok.inj h).symm
  | cons name rest ih =>
    rw [goal]
    obtain ⟨rfl, hrest⟩ | ⟨hup, -, hlast | ⟨-, -, hrest⟩⟩ := walk_cons_iff.mp h
    · exact ih hrest
    · obtain ⟨rfl, rfl⟩ := hlast
      simp [hup, goal]
    · simpa [hup] using ih hrest

/-- Names without double dots are followed down one by one. -/
theorem goal_append {down : List String} (h : ".." ∉ down) (here names : List String) :
    goal here (names ++ down) = goal here names ++ down := by
  induction names generalizing here with
  | nil =>
    induction down generalizing here with
    | nil => simp [goal]
    | cons name rest ih =>
      obtain ⟨hname, hrest⟩ := not_or.mp (mt List.mem_cons.mpr h)
      have hrest := ih hrest (here ++ [name])
      simp only [List.nil_append, goal, beq_iff_eq, Ne.symm hname, if_false] at hrest ⊢
      rw [hrest, List.append_assoc]
      rfl
  | cons name rest ih =>
    rw [List.cons_append, goal, goal]
    split <;> exact ih _

/-- Names that lead to a directory lead on from there. -/
theorem walk_append {there place : List String} (h : tree.walk here names = .ok there)
    (hdirectory : tree.find? there = some .directory) (hrest : tree.walk there rest = .ok place) :
    tree.walk here (names ++ rest) = .ok place := by
  induction names generalizing here with
  | nil =>
    cases h
    exact hrest
  | cons name names ih =>
    rw [List.cons_append, walk_cons_iff]
    obtain ⟨hup, hnames⟩ | ⟨hup, hfits, hlast | ⟨hne, hfound, hnames⟩⟩ := walk_cons_iff.mp h
    · exact .inl ⟨hup, ih hnames⟩
    · obtain ⟨rfl, rfl⟩ := hlast
      refine .inr ⟨hup, hfits, ?_⟩
      cases rest with
      | nil => exact .inl ⟨rfl, (Except.ok.inj hrest).symm⟩
      | cons other rest => exact .inr ⟨List.cons_ne_nil _ _, hdirectory, hrest⟩
    · exact .inr ⟨hup, hfits, .inr ⟨by simp [hne], hfound, ih hnames⟩⟩

/-! ## Entries -/

namespace Sound

theorem not_leadsUp (h : tree.Sound) (hmem : (names, entry) ∈ tree.entries) :
    leadsUp names = false := by
  obtain ⟨hne, hnames⟩ := h.named _ hmem
  obtain ⟨name, rest, rfl⟩ := List.exists_cons_of_ne_nil hne
  have hname := (hnames name List.mem_cons_self).ne_up
  simp [leadsUp, hname]

/-- Every entry is found under its names. -/
theorem find?_of_mem (h : tree.Sound) (hmem : (names, entry) ∈ tree.entries) :
    tree.find? names = some entry := by
  rw [find?_of_not_leadsUp (h.not_leadsUp hmem)]
  cases hfound : tree.entries.find? fun e => e.1 == names with
  | none =>
    have hno := List.find?_eq_none.mp hfound _ hmem
    simp at hno
  | some e =>
    have hnames : e.1 = names := by simpa using List.find?_some hfound
    obtain rfl := List.inj_on_of_nodup_map h.distinct (List.mem_of_find?_eq_some hfound) hmem hnames
    rfl

/-- There are directories above every entry. -/
theorem find?_above (h : tree.Sound) (hmem : (here ++ rest, entry) ∈ tree.entries)
    (hne : rest ≠ []) : tree.find? here = some .directory := by
  -- by the names after the directory, the last one first
  induction rest using List.reverseRecOn generalizing entry with
  | nil => exact absurd rfl hne
  | append_singleton front name ih =>
    have habove := h.closed _ hmem
    rw [← List.append_assoc, List.dropLast_concat] at habove
    rcases habove with habove | habove
    · obtain ⟨rfl, -⟩ := List.append_eq_nil_iff.mp habove
      rfl
    · rcases List.eq_nil_or_concat front with rfl | ⟨_, _, rfl⟩
      · rw [List.append_nil] at habove
        exact h.find?_of_mem habove
      · exact ih habove (by simp)

/-- From a directory above it the further names of an entry lead to it. -/
theorem walk_of_mem (h : tree.Sound) (hmem : (here ++ names, entry) ∈ tree.entries) :
    tree.walk here names = .ok (here ++ names) := by
  induction names generalizing here with
  | nil => rw [walk, List.append_nil]
  | cons name rest ih =>
    obtain ⟨-, hnames⟩ := h.named _ hmem
    have hname : IsName name := hnames name (by simp)
    rw [List.append_cons] at hmem
    refine walk_cons_iff.mpr (.inr ⟨hname.ne_up, hname.2.2.2, ?_⟩)
    cases rest with
    | nil => exact .inl ⟨rfl, rfl⟩
    | cons other rest =>
      have habove := h.find?_above hmem (List.cons_ne_nil other rest)
      refine .inr ⟨List.cons_ne_nil other rest, habove, ?_⟩
      rw [ih hmem, List.append_assoc, List.singleton_append]

end Sound

/-! ## Directories as roots -/

/-- The path leads to a directory. -/
structure Opens (tree : FileTree) (root : Path) : Prop where
  path : checkPath root = .ok ()
  relative : root.isAbsolute = false
  walk : tree.walk [] root.segments = .ok root.goal
  directory : tree.find? root.goal = some .directory

variable {root : Path}

/-- Where a path leads, it is one that a file can have. -/
theorem locate_eq_ok {p : Path} {there : List String} :
    tree.locate p = .ok there ↔
      checkPath p = .ok () ∧ p.isAbsolute = false ∧ tree.walk [] p.segments = .ok there := by
  rw [locate]
  cases checkPath p with
  | error f => simp [bind, Except.bind]
  | ok _ => cases p.isAbsolute <;> simp [bind, Except.bind]

theorem opens_of_isDirectory (h : tree.isDirectory root = true) : tree.Opens root := by
  have hentry : tree.entry? root = some .directory := by simpa [isDirectory] using h
  rw [FileTree.entry?, look] at hentry
  cases hlocate : tree.locate root with
  | error f => cases f <;> rw [hlocate] at hentry <;> cases hentry
  | ok there =>
    rw [hlocate] at hentry
    obtain ⟨hpath, hrelative, hwalk⟩ := locate_eq_ok.mp hlocate
    obtain rfl : there = root.goal := goal_of_walk hwalk
    exact ⟨hpath, hrelative, hwalk, hentry⟩

theorem checkPath_eq_ok {p : Path} : checkPath p = .ok () ↔
    (∀ name ∈ p.segments, '\x00' ∉ name.toList) ∧ p.toString.utf8ByteSize ≤ pathLimit := by
  rw [checkPath]
  split
  · rename_i hnul
    simp only [reduceCtorEq, false_iff, not_and_or, not_forall]
    obtain ⟨name, hname, hmem⟩ := List.any_eq_true.mp hnul
    exact .inl ⟨name, hname, by simpa using hmem⟩
  · rename_i hnul
    have hnul : ∀ name ∈ p.segments, '\x00' ∉ name.toList := by simpa using hnul
    split
    · rename_i hlong
      simp [Nat.not_le.mpr hlong]
    · rename_i hlong
      simpa using ⟨hnul, Nat.not_lt.mp hlong⟩

/-- What is read under the path of a directory and further names is a file below it. -/
theorem mem_of_read_join (hup : ".." ∉ names) {bytes : List UInt8}
    (h : tree.read (root.join ⟨.relative, names⟩) = .ok bytes) :
    (root.goal ++ names, .file bytes) ∈ tree.entries := by
  have hgoal : (root.join ⟨.relative, names⟩).goal = root.goal ++ names := by
    rw [Path.join_of_relative rfl]
    exact goal_append hup [] root.segments
  rw [read] at h
  cases hlocate : tree.locate (root.join ⟨.relative, names⟩) with
  | error f =>
    rw [hlocate] at h
    cases h
  | ok there =>
    obtain ⟨-, -, hwalk⟩ := locate_eq_ok.mp hlocate
    obtain rfl : there = root.goal ++ names := (goal_of_walk hwalk).trans hgoal
    rw [hlocate] at h
    simp only [bind, Except.bind] at h
    split at h
    · rename_i found hfound
      obtain rfl := Except.ok.inj h
      exact mem_of_find?_file hfound
    · cases h
    · cases h

namespace Opens

theorem isDirectory (h : tree.Opens root) : tree.isDirectory root = true := by
  have hentry : tree.entry? root = some .directory := by
    rw [FileTree.entry?, FileTree.look, locate_eq_ok.mpr ⟨h.path, h.relative, h.walk⟩]
    exact h.directory
  simp [FileTree.isDirectory, hentry]

theorem look (h : tree.Opens root) : tree.look root = .ok (some .directory) := by
  rw [FileTree.look, locate_eq_ok.mpr ⟨h.path, h.relative, h.walk⟩]
  exact congrArg Except.ok h.directory

theorem anchor (h : tree.Opens root) : root.anchor = .relative := by
  simpa [Path.isAbsolute] using h.relative

/-- An entry below a directory is found under the path of the directory and its further names. -/
theorem locate_join (h : tree.Opens root) (hsound : tree.Sound)
    (hmem : (root.goal ++ names, entry) ∈ tree.entries)
    (hshort : (root.join ⟨.relative, names⟩).toString.utf8ByteSize ≤ pathLimit) :
    tree.locate (root.join ⟨.relative, names⟩) = .ok (root.goal ++ names) := by
  have hnames := (hsound.named _ hmem).2
  refine locate_eq_ok.mpr ⟨checkPath_eq_ok.mpr ⟨?_, hshort⟩, ?_, ?_⟩
  · rw [Path.join_of_relative rfl]
    refine List.forall_mem_append.mpr ⟨(checkPath_eq_ok.mp h.path).1, fun name hname => ?_⟩
    exact (hnames name (List.mem_append_right _ hname)).2.2.1
  · rw [Path.join_of_relative rfl]
    exact h.relative
  · rw [Path.join_of_relative rfl]
    exact walk_append h.walk h.directory (hsound.walk_of_mem hmem)

/-- The files below a directory are read under its path and their further names. -/
theorem read_join (h : tree.Opens root) (hsound : tree.Sound) {bytes : List UInt8}
    (hmem : (root.goal ++ names, .file bytes) ∈ tree.entries)
    (hshort : (root.join ⟨.relative, names⟩).toString.utf8ByteSize ≤ pathLimit) :
    tree.read (root.join ⟨.relative, names⟩) = .ok bytes := by
  rw [read, h.locate_join hsound hmem hshort]
  simp only [bind, Except.bind, hsound.find?_of_mem hmem]
  rfl

end Opens

/-! ## Entries below a place -/

theorem below?_eq_some {place : List String} : below? here place = some rest ↔
    place = here ++ rest ∧ rest ≠ [] ∧ rest.head? ≠ some ".." := by
  rw [below?]
  constructor
  · intro h
    split at h
    · rename_i hbelow
      simp only [Bool.and_eq_true, Bool.not_eq_true', List.isEmpty_eq_false_iff,
        bne_iff_ne] at hbelow
      obtain ⟨⟨hfront, hne⟩, hhead⟩ := hbelow
      obtain ⟨more, rfl⟩ := List.isPrefixOf_iff_prefix.mp hfront
      cases h
      exact ⟨by rw [List.drop_left], hne, hhead⟩
    · cases h
  · rintro ⟨rfl, hne, hhead⟩
    simp [hne, hhead]

/-- What is found of an entry below a place tells where it stands. -/
theorem exists_of_file {e : List String × Entry} {found : List String × List UInt8}
    (h : (match e.2 with
      | .file bytes => (below? here e.1).map (·, bytes)
      | .directory => none) = some found) :
    e = (here ++ found.1, .file found.2) ∧ found.1 ≠ [] := by
  obtain ⟨place, entry⟩ := e
  cases entry with
  | directory => cases h
  | file bytes =>
    obtain ⟨rest, hbelow, rfl⟩ := Option.map_eq_some_iff.mp h
    obtain ⟨rfl, hne, -⟩ := below?_eq_some.mp hbelow
    exact ⟨rfl, hne⟩

namespace Sound

theorem head?_ne_up (h : tree.Sound) (hmem : (here ++ rest, entry) ∈ tree.entries) :
    rest.head? ≠ some ".." := by
  intro hup
  have hmem' := List.mem_append_right here (List.mem_of_head? hup)
  exact ((h.named _ hmem).2 _ hmem').ne_up rfl

theorem mem_namesBelow (h : tree.Sound) : rest ∈ tree.namesBelow here ↔
    rest ≠ [] ∧ ∃ entry, (here ++ rest, entry) ∈ tree.entries := by
  rw [namesBelow, List.mem_filterMap]
  constructor
  · rintro ⟨⟨place, entry⟩, hmem, hbelow⟩
    obtain ⟨rfl, hne, -⟩ := below?_eq_some.mp hbelow
    exact ⟨hne, entry, hmem⟩
  · rintro ⟨hne, entry, hmem⟩
    exact ⟨_, hmem, below?_eq_some.mpr ⟨rfl, hne, h.head?_ne_up hmem⟩⟩

theorem mem_filesBelow (h : tree.Sound) {bytes : List UInt8} :
    (rest, bytes) ∈ tree.filesBelow here ↔
      rest ≠ [] ∧ (here ++ rest, .file bytes) ∈ tree.entries := by
  rw [filesBelow, List.mem_filterMap]
  constructor
  · rintro ⟨e, hmem, hfile⟩
    obtain ⟨rfl, hne⟩ := exists_of_file hfile
    exact ⟨hne, hmem⟩
  · rintro ⟨hne, hmem⟩
    exact ⟨_, hmem, by simp [below?_eq_some.mpr ⟨rfl, hne, h.head?_ne_up hmem⟩]⟩

/-- The files below a place have names of their own. -/
theorem nodup_filesBelow (h : tree.Sound) (here : List String) :
    ((tree.filesBelow here).map (·.1)).Nodup := by
  rw [List.Nodup, List.pairwise_map, filesBelow, List.pairwise_filterMap]
  refine (List.pairwise_map.mp h.distinct).imp fun {a b} hne found hfound found' hfound' he => ?_
  obtain ⟨rfl, -⟩ := exists_of_file hfound
  obtain ⟨rfl, -⟩ := exists_of_file hfound'
  exact hne (congrArg (here ++ ·) he)

end Sound

end Crosslink.FileTree
