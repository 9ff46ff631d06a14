import Crosslink.Build.Discovery
import Crosslink.Proofs.FileTree.Sound
import Crosslink.Proofs.Path.Order

/-!
# What is discovered

In a sound tree the content files that are found below a root are exactly the files with a wanted
suffix and no hidden name on the way, each once, and in the order of their names. Everything below
the root is looked at, so the search ends with a fault where a path is longer than the system
allows, and only there.
-/

namespace Crosslink

open FileTree

variable {tree : FileTree} {root : Path} {extensions : List String}

/-- The file is a content file below the root: it can be read, its last suffix is one of the wanted
ones in some case, and no name below the root begins with a dot or an underscore. -/
def IsContent (tree : FileTree) (root : Path) (extensions : List String) (file : Path) : Prop :=
  ∃ names : List String, file = root.join ⟨.relative, names⟩ ∧
    (∃ bytes, tree.read file = .ok bytes) ∧
    (∃ e ∈ extensions, Text.lowerString e = Text.lowerString file.suffix) ∧
    ∀ name ∈ names, name.startsWith "." = false ∧ name.startsWith "_" = false

/-- No path of an entry below the root is longer than the system allows. -/
def FileTree.FitsBelow (tree : FileTree) (root : Path) : Prop :=
  ∀ e ∈ tree.entries, root.goal <+: e.1 →
    (root.join ⟨.relative, e.1.drop root.goal.length⟩).toString.utf8ByteSize ≤ pathLimit

instance (tree : FileTree) (root : Path) : Decidable (tree.FitsBelow root) :=
  inferInstanceAs (Decidable (∀ e ∈ tree.entries, _ → _))

/-! ## Opening the search -/

/-- The content files below a place of the tree, as they are listed. -/
def contentBelow (tree : FileTree) (root : Path) (extensions names : List String) : List Path :=
  (((tree.filesBelow names).filter fun f => isContentFile extensions f.1).map fun f =>
    root.join ⟨.relative, f.1⟩).mergeSort Path.le

/-- What is found lies below a place of the tree. -/
theorem exists_of_discover {files : List Path} (h : discover tree root extensions = .ok files) :
    ∃ names, files = contentBelow tree root extensions names := by
  rw [discover] at h
  simp only [bind, Except.bind] at h
  split at h
  · cases h
  split at h
  · split at h
    · cases h
    · exact ⟨_, (Except.ok.inj h).symm⟩
  · cases h

/-- From a root that leads to a directory the search goes through, unless a path is too long. -/
theorem discover_of_opens (h : tree.Opens root) (extensions : List String) :
    discover tree root extensions =
      if (tree.namesBelow root.goal).any fun below => isTooLong (root.join ⟨.relative, below⟩) then
        .error (.fault (.files .tooLong))
      else .ok (contentBelow tree root extensions root.goal) := by
  rw [discover, h.look, locate_eq_ok.mpr ⟨h.path, h.relative, h.walk⟩]
  simp only [Except.mapError, bind, Except.bind]
  split <;> rfl

/-! ## What is listed -/

theorem isContentFile_iff {names : List String} : isContentFile extensions names = true ↔
    (∃ e ∈ extensions, Text.lowerString e = Text.lowerString (Path.suffix ⟨.relative, names⟩)) ∧
      ∀ name ∈ names, name.startsWith "." = false ∧ name.startsWith "_" = false := by
  simp [isContentFile, isHidden]

/-- No name that leads up is shown. -/
theorem not_mem_up {names : List String} (h : ∀ name ∈ names,
    name.startsWith "." = false ∧ name.startsWith "_" = false) : ".." ∉ names := by
  intro hmem
  have hup : ("..").startsWith "." = true := by decide +kernel
  exact Bool.false_ne_true ((h _ hmem).1.symm.trans hup)

theorem mem_contentBelow {names : List String} {file : Path} :
    file ∈ contentBelow tree root extensions names ↔ ∃ f ∈ tree.filesBelow names,
      isContentFile extensions f.1 = true ∧ file = root.join ⟨.relative, f.1⟩ := by
  rw [contentBelow, (List.mergeSort_perm _ _).mem_iff, List.mem_map]
  simp only [List.mem_filter, and_assoc, eq_comm]

/-- What is found lies at names below the root that do not lead up. -/
theorem exists_names_of_mem_discover {files : List Path}
    (h : discover tree root extensions = .ok files) {file : Path} (hfile : file ∈ files) :
    ∃ names : List String, file = root.join ⟨.relative, names⟩ ∧ ".." ∉ names := by
  obtain ⟨place, rfl⟩ := exists_of_discover h
  obtain ⟨⟨names, bytes⟩, -, hcontent, rfl⟩ := mem_contentBelow.mp hfile
  exact ⟨names, rfl, not_mem_up (isContentFile_iff.mp hcontent).2⟩

/-- The last suffix of a path is that of its last name. -/
theorem suffix_join {names : List String} (h : names ≠ []) (root : Path) :
    (root.join ⟨.relative, names⟩).suffix = Path.suffix ⟨.relative, names⟩ := by
  have hname : (root.join ⟨.relative, names⟩).name? = Path.name? ⟨.relative, names⟩ := by
    rw [Path.join_of_relative rfl, Path.name?, Path.name?, List.getLast?_append_of_ne_nil _ h]
  rw [Path.suffix, Path.suffix, hname]

/-- Exactly the content files are listed. -/
theorem mem_contentBelow_iff (hsound : tree.Sound) (hopens : tree.Opens root)
    (hfits : tree.FitsBelow root) {file : Path} :
    file ∈ contentBelow tree root extensions root.goal ↔ IsContent tree root extensions file := by
  rw [mem_contentBelow]
  constructor
  · rintro ⟨⟨names, bytes⟩, hmem, hcontent, rfl⟩
    obtain ⟨hne, hmem⟩ := hsound.mem_filesBelow.mp hmem
    obtain ⟨hsuffix, hshown⟩ := isContentFile_iff.mp hcontent
    have hshort := hfits _ hmem (List.prefix_append _ _)
    rw [List.drop_left] at hshort
    refine ⟨names, rfl, ⟨bytes, hopens.read_join hsound hmem hshort⟩, ?_, hshown⟩
    rwa [suffix_join hne]
  · rintro ⟨names, rfl, ⟨bytes, hread⟩, hsuffix, hshown⟩
    have hmem := mem_of_read_join (not_mem_up hshown) hread
    have hne : names ≠ [] := by
      rintro rfl
      rw [List.append_nil] at hmem
      have hdirectory := hopens.directory
      rw [hsound.find?_of_mem hmem] at hdirectory
      cases hdirectory
    rw [suffix_join hne] at hsuffix
    exact ⟨(names, bytes), hsound.mem_filesBelow.mpr ⟨hne, hmem⟩,
      isContentFile_iff.mpr ⟨hsuffix, hshown⟩, rfl⟩

theorem join_inj {names names' : List String}
    (h : (root.join ⟨.relative, names⟩).parts = (root.join ⟨.relative, names'⟩).parts) :
    names = names' := by
  obtain ⟨anchor, segments⟩ := root
  rw [Path.join_of_relative rfl, Path.join_of_relative rfl] at h
  cases anchor <;> simpa [Path.parts] using h

/-- The files are listed in strictly increasing order. -/
theorem pairwise_contentBelow (hsound : tree.Sound) (root : Path) (extensions names : List String) :
    (contentBelow tree root extensions names).Pairwise fun p q => q.le p = false := by
  have hdistinct : (((tree.filesBelow names).filter fun f => isContentFile extensions f.1).map
      fun f => root.join ⟨.relative, f.1⟩).Pairwise fun p q => p.parts ≠ q.parts := by
    refine List.pairwise_map.mpr (List.Pairwise.filter _ ?_)
    exact (List.pairwise_map.mp (hsound.nodup_filesBelow names)).imp fun hne he =>
      hne (join_inj he)
  have hsorted : (contentBelow tree root extensions names).Pairwise fun p q => p.le q = true :=
    @List.pairwise_mergeSort _ Path.le (fun _ _ _ => Path.le_trans) Path.le_total _
  have hkept : (contentBelow tree root extensions names).Pairwise
      fun p q => p.parts ≠ q.parts :=
    (List.mergeSort_perm _ _).symm.pairwise hdistinct fun hne => hne.symm
  refine (hsorted.and hkept).imp fun {p q} ⟨hle, hne⟩ => ?_
  cases hge : q.le p with
  | false => rfl
  | true => exact absurd (Path.namesLe_antisymm hle hge) hne

/-- The search looks at every path below the root. -/
theorem any_isTooLong_iff (hsound : tree.Sound) (hopens : tree.Opens root) :
    ((tree.namesBelow root.goal).any fun below => isTooLong (root.join ⟨.relative, below⟩)) =
      true ↔ ¬ tree.FitsBelow root := by
  simp only [List.any_eq_true, isTooLong, decide_eq_true_eq, FitsBelow, not_forall, Nat.not_le]
  constructor
  · rintro ⟨below, hmem, hlong⟩
    obtain ⟨-, entry, hentry⟩ := hsound.mem_namesBelow.mp hmem
    refine ⟨_, hentry, List.prefix_append _ _, ?_⟩
    rwa [List.drop_left]
  · rintro ⟨⟨place, entry⟩, hentry, ⟨below, rfl⟩, hlong⟩
    rw [List.drop_left] at hlong
    refine ⟨below, hsound.mem_namesBelow.mpr ⟨?_, entry, hentry⟩, hlong⟩
    rintro rfl
    -- the path of the root itself is not too long
    have hroot := (checkPath_eq_ok.mp hopens.path).2
    have hself : root.join ⟨.relative, []⟩ = root := by
      rw [Path.join_of_relative rfl, List.append_nil]
    rw [hself] at hlong
    omega

/-! ## Paths that are too long -/

/-- A relative path is as long as its names and the separators between them. -/
theorem utf8ByteSize_toString {p : Path} (hrelative : p.anchor = .relative)
    (hne : p.segments ≠ []) : p.toString.utf8ByteSize + 1 =
      p.segments.foldr (fun name size => name.utf8ByteSize + 1 + size) 0 := by
  obtain ⟨anchor, segments⟩ := p
  cases hrelative
  have hsize : ∀ {names : List String}, names ≠ [] →
      (String.intercalate "/" names).utf8ByteSize + 1 =
        names.foldr (fun name size => name.utf8ByteSize + 1 + size) 0 := by
    intro names hnames
    induction names with
    | nil => exact absurd rfl hnames
    | cons name names ih =>
      cases names with
      | nil => simp
      | cons other names =>
        have hslash : ("/" : String).utf8ByteSize = 1 := rfl
        rw [String.intercalate_cons_cons, String.utf8ByteSize_append, String.utf8ByteSize_append,
          List.foldr_cons, ← ih (List.cons_ne_nil _ _), hslash, Nat.add_assoc]
  rw [Path.toString, if_neg (by simpa using hne), Anchor.text, String.empty_append, hsize hne]

namespace Sample

/-- A directory with one content file. -/
def docs : FileTree := ⟨[(["docs"], .directory), (["docs", "a.md"], .file [])]⟩

/-- A path to the directory, by many steps up and down, that is almost as long as a path can be. -/
def winding : Path := ⟨.relative, "docs" :: (List.replicate 511 ["..", "docs"]).flatten⟩

theorem opens_winding : docs.Opens winding where
  path := by
    refine checkPath_eq_ok.mpr ⟨by decide +kernel, ?_⟩
    have hsize := utf8ByteSize_toString (p := winding) rfl (List.cons_ne_nil _ _)
    have hsum : winding.segments.foldr (fun name size => name.utf8ByteSize + 1 + size) 0 =
        4093 := by
      decide +kernel
    simp only [pathLimit]
    omega
  relative := rfl
  walk := by decide +kernel
  directory := by decide +kernel

end Sample

end Crosslink
