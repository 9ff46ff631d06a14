import Mathlib.Data.List.Perm.Basic
import Crosslink.Build.Loading
import Crosslink.Proofs.Except

/-!
# What loading comes to

Every file of a list is a page, an error of the page, or a fault that ends the build. Without
faults, the loaded pages are those of the files that are pages, in the order of the list, and
each page is named by its file.
-/

namespace Crosslink

/-- The page in a file, if it can be loaded. -/
def Page.loaded? (tree : FileTree) (root file : Path) : Option Page :=
  match load tree root file with
  | .ok page => some page
  | .error _ => none

/-- The file with the error of its page, if it has one. -/
def Page.failed? (tree : FileTree) (root file : Path) : Option (Path × Error) :=
  match load tree root file with
  | .error (.error e) => some (file, e)
  | _ => none

/-- The file does not end the build. -/
def Page.Loads (tree : FileTree) (root file : Path) : Prop :=
  ∀ f, load tree root file ≠ .error (.fault f)

/-- A page that is read from a text is told by it, and by the metadata that are read from it. -/
theorem Page.ofText_eq_ok_iff {file below : Path} {text : List Char} {p : Page} :
    ofText file below text = .ok p ↔ ∃ metadata, FrontMatter.metadata file text = .ok metadata ∧
      p = {
        sourceFile := file
        relativePath := below
        metadata
        text
        bodyOffset := FrontMatter.bodyOffset text
        links := Link.find text (FrontMatter.bodyOffset text) } := by
  simp only [ofText, bind_eq_ok_iff]
  exact exists_congr fun metadata => and_congr_right fun _ =>
    ⟨fun h => (Except.ok.inj h).symm, fun h => congrArg Except.ok h.symm⟩

/-- A page is loaded from a file that can be read, decoded, placed below the root and read as a
page. -/
theorem Page.load_eq_ok_iff {tree : FileTree} {root file : Path} {p : Page} :
    load tree root file = .ok p ↔ ∃ bytes, tree.read file = .ok bytes ∧
      ∃ cs, Text.Utf8.decode bytes = .ok cs ∧
        ∃ below, Location.relative root file = .ok below ∧
          ofText file below (Text.unifyBreaks cs) = .ok p := by
  simp only [load, bind_eq_ok_iff, mapError_eq_ok_iff]

/-- A loaded page remembers the file and has the links of its text. -/
theorem Page.of_load {tree : FileTree} {root file : Path} {p : Page}
    (h : load tree root file = .ok p) :
    p.sourceFile = file ∧ p.links = Link.find p.text p.bodyOffset := by
  obtain ⟨_, -, _, -, _, -, h⟩ := load_eq_ok_iff.mp h
  obtain ⟨_, -, rfl⟩ := ofText_eq_ok_iff.mp h
  exact ⟨rfl, rfl⟩

theorem Page.loaded?_eq_some_iff {tree : FileTree} {root file : Path} {p : Page} :
    loaded? tree root file = some p ↔ load tree root file = .ok p := by
  rw [loaded?]
  cases load tree root file <;> simp

theorem Page.failed?_eq_some_iff {tree : FileTree} {root file : Path} {x : Path × Error} :
    failed? tree root file = some x ↔
      x.1 = file ∧ load tree root file = .error (.error x.2) := by
  rw [failed?]
  obtain ⟨place, e⟩ := x
  rcases load tree root file with (e' | f) | p <;> simp [eq_comm]

/-- A file that does not end the build is a page or has an error. -/
theorem Page.loads_iff {tree : FileTree} {root file : Path} : Loads tree root file ↔
    (loaded? tree root file).isSome = true ∨ (failed? tree root file).isSome = true := by
  rw [Loads, loaded?, failed?]
  rcases load tree root file with (e | f) | page <;> simp

/-- Links are found as they are written. -/
theorem Link.of_mem_find {text : List Char} {offset : Nat} {l : Link} (h : l ∈ find text offset) :
    l = ofOrigin l.origin := by
  obtain ⟨o, -, rfl⟩ := List.mem_map.mp h
  rfl

namespace Loaded

/-- The pages and the errors of files, in the order of the files. -/
def among (tree : FileTree) (root : Path) (files : List Path) : Loaded :=
  ⟨files.filterMap (Page.loaded? tree root), files.filterMap (Page.failed? tree root)⟩

/-- Loading is over exactly when no file is a fault, and gives the pages and the errors. -/
theorem ofFiles_ok_iff {tree : FileTree} {root : Path} {files : List Path} {loaded : Loaded} :
    ofFiles tree root files = .ok loaded ↔
      (∀ file ∈ files, Page.Loads tree root file) ∧ loaded = among tree root files := by
  rw [ofFiles, among]
  induction files generalizing loaded with
  | nil => simp [collect, eq_comm]
  | cons file rest ih =>
    have hmap : ∀ g : Loaded → Loaded,
        (collect (rest.map fun f => (f, Page.load tree root f))).map g = .ok loaded ↔
          (∀ f ∈ rest, Page.Loads tree root f) ∧ loaded = g (among tree root rest) := by
      intro g
      constructor
      · intro h
        rcases hc : collect (rest.map fun f => (f, Page.load tree root f)) with f | later <;>
          rw [hc] at h
        · cases h
        · obtain ⟨hrest, rfl⟩ := ih.mp hc
          exact ⟨hrest, (Except.ok.inj h).symm⟩
      · rintro ⟨hrest, rfl⟩
        rw [ih.mpr ⟨hrest, rfl⟩]
        rfl
    rw [List.map_cons, List.forall_mem_cons]
    rcases hl : Page.load tree root file with (e | f) | page <;> simp only [collect]
    · have hsome : Page.failed? tree root file = some (file, e) := by rw [Page.failed?, hl]
      have hnone : Page.loaded? tree root file = none := by rw [Page.loaded?, hl]
      have hloads : Page.Loads tree root file := fun f => by simp [hl]
      rw [List.filterMap_cons_some hsome, List.filterMap_cons_none hnone, hmap]
      simp only [hloads, true_and, among]
    · have hloads : ¬ Page.Loads tree root file := fun h => h f hl
      simp [hloads]
    · have hsome : Page.loaded? tree root file = some page := by rw [Page.loaded?, hl]
      have hnone : Page.failed? tree root file = none := by rw [Page.failed?, hl]
      have hloads : Page.Loads tree root file := fun f => by simp [hl]
      rw [List.filterMap_cons_some hsome, List.filterMap_cons_none hnone, hmap]
      simp only [hloads, true_and, among]

variable (tree : FileTree) (root : Path) (files : List Path)

/-- The files of loaded pages are those files of the list that are pages. -/
theorem sourceFile_pages_among : (among tree root files).pages.map (·.sourceFile) =
    files.filter fun file => (Page.loaded? tree root file).isSome := by
  rw [among]
  induction files with
  | nil => rfl
  | cons file rest ih =>
    cases h : Page.loaded? tree root file with
    | none => rw [List.filterMap_cons_none h, List.filter_cons_of_neg (by simp [h]), ih]
    | some p =>
      rw [List.filterMap_cons_some h, List.filter_cons_of_pos (by simp [h]), List.map_cons, ih,
        (Page.of_load (Page.loaded?_eq_some_iff.mp h)).1]

theorem file_failed_among : (among tree root files).failed.map (·.1) =
    files.filter fun file => (Page.failed? tree root file).isSome := by
  rw [among]
  induction files with
  | nil => rfl
  | cons file rest ih =>
    cases h : Page.failed? tree root file with
    | none => rw [List.filterMap_cons_none h, List.filter_cons_of_neg (by simp [h]), ih]
    | some x =>
      rw [List.filterMap_cons_some h, List.filter_cons_of_pos (by simp [h]), List.map_cons, ih,
        (Page.failed?_eq_some_iff.mp h).1]

variable {tree root files}

theorem nodup_pages_among (h : files.Nodup) :
    ((among tree root files).pages.map (·.sourceFile)).Nodup := by
  rw [sourceFile_pages_among]
  exact h.filter _

theorem mem_of_mem_pages_among {p : Page} (h : p ∈ (among tree root files).pages) :
    p.sourceFile ∈ files ∧ Page.load tree root p.sourceFile = .ok p := by
  obtain ⟨file, hfile, hp⟩ := List.mem_filterMap.mp h
  have hload := Page.loaded?_eq_some_iff.mp hp
  rw [(Page.of_load hload).1]
  exact ⟨hfile, hload⟩

/-- Pages and errors are what loading their files gives. -/
theorem of_mem_among :
    (∀ p ∈ (among tree root files).pages, Page.load tree root p.sourceFile = .ok p) ∧
      ∀ x ∈ (among tree root files).failed, Page.load tree root x.1 = .error (.error x.2) := by
  refine ⟨fun p hp => (mem_of_mem_pages_among hp).2, fun x hx => ?_⟩
  obtain ⟨file, -, hx⟩ := List.mem_filterMap.mp hx
  obtain ⟨rfl, hload⟩ := Page.failed?_eq_some_iff.mp hx
  exact hload

/-- Loaded pages of the same file are the same. -/
theorem eq_of_sourceFile_eq {p q : Page} (hp : p ∈ (among tree root files).pages)
    (hq : q ∈ (among tree root files).pages) (h : p.sourceFile = q.sourceFile) : p = q := by
  have hload := (mem_of_mem_pages_among hp).2
  rw [h, (mem_of_mem_pages_among hq).2] at hload
  exact (Except.ok.inj hload).symm

end Loaded

end Crosslink
