import Mathlib.Data.List.Pairwise
import Crosslink.FileTree

/-!
# Planting files

When files can be written one after the other, each with the directories above it. A path
makes its way over some places, which must not be files, to a goal, which must not be a
directory. Files get in each other's way only if the goal of one is on the way of the other,
so whether all of them can be written does not depend on their order.
-/

namespace Crosslink.FileTree

/-- The places at which names arrive one after the other, those of double dots left out. -/
def stops (here : List String) : List String → List (List String)
  | [] => []
  | name :: rest =>
    if name == ".." then stops (above here) rest
    else (here ++ [name]) :: stops (here ++ [name]) rest

/-- The place to which names lead in the end. -/
def goal (here : List String) : List String → List String
  | [] => here
  | name :: rest => if name == ".." then goal (above here) rest else goal (here ++ [name]) rest

/-- No name is too long. -/
def Fits (names : List String) : Prop :=
  ∀ name ∈ names, name = ".." ∨ name.utf8ByteSize ≤ nameLimit

instance (names : List String) : Decidable (Fits names) :=
  inferInstanceAs (Decidable (∀ name ∈ names, name = ".." ∨ name.utf8ByteSize ≤ nameLimit))

/-- There is a file in this place. -/
def IsFile (tree : FileTree) (place : List String) : Prop :=
  ∃ bytes, tree.find? place = some (.file bytes)

theorem fits_cons {name : String} {rest : List String} :
    Fits (name :: rest) ↔ (name = ".." ∨ name.utf8ByteSize ≤ nameLimit) ∧ Fits rest := by
  simp [Fits]

theorem leadsUp_append_of_ne {name : String} (h : name ≠ "..") (here : List String) :
    leadsUp (here ++ [name]) = false := by
  simp [leadsUp, h]

theorem isFile_store_directory {tree : FileTree} {there : List String}
    (hup : leadsUp there = false) (h : tree.find? there = none) (place : List String) :
    (tree.store there .directory).IsFile place ↔ tree.IsFile place := by
  by_cases hp : place = there
  · subst hp
    simp [IsFile, find?_store_self hup, h]
  · rw [IsFile, find?_store_of_ne hp, IsFile]

/-- Directories can be made along names exactly if no name is too long and no file is on the
way. -/
theorem makeFrom_ok_iff (names : List String) (here : List String) (tree : FileTree) :
    (makeFrom here tree names).2 = .ok () ↔
      Fits names ∧ ∀ place ∈ stops here names, ¬ tree.IsFile place := by
  induction names generalizing here tree with
  | nil => simp [makeFrom, Fits, stops]
  | cons name rest ih =>
    rw [makeFrom, stops, fits_cons]
    by_cases hup : name = ".."
    · simpa [hup] using ih (above here) tree
    have hplace := leadsUp_append_of_ne hup here
    by_cases hlong : nameLimit < name.utf8ByteSize
    · simp [hup, hlong, Nat.not_le.mpr hlong]
    have hfits : name.utf8ByteSize ≤ nameLimit := Nat.not_lt.mp hlong
    simp only [beq_iff_eq, hup, if_false, hlong, false_or, hfits, true_and, List.forall_mem_cons]
    cases he : tree.find? (here ++ [name]) with
    | none =>
      have hnone : ¬ tree.IsFile (here ++ [name]) := by simp [IsFile, he]
      simp only [ih, isFile_store_directory hplace he, hnone, not_false_eq_true, true_and]
    | some entry =>
      cases entry with
      | directory =>
        have hnone : ¬ tree.IsFile (here ++ [name]) := by simp [IsFile, he]
        simp only [ih, hnone, not_false_eq_true, true_and]
      | file bytes =>
        have hfile : tree.IsFile (here ++ [name]) := ⟨bytes, he⟩
        simp [hfile]

/-- Made directories stand where names arrive, and all else is as before. -/
theorem find?_makeFrom {names : List String} {here : List String} {tree : FileTree}
    (h : (makeFrom here tree names).2 = .ok ()) (place : List String) :
    (makeFrom here tree names).1.find? place =
      if place ∈ stops here names then some .directory else tree.find? place := by
  induction names generalizing here tree with
  | nil => simp [makeFrom, stops]
  | cons name rest ih =>
    rw [makeFrom] at h ⊢
    rw [stops]
    by_cases hup : name = ".."
    · simp only [beq_iff_eq, hup, if_true] at h ⊢
      exact ih h
    have hplace := leadsUp_append_of_ne hup here
    by_cases hlong : nameLimit < name.utf8ByteSize
    · simp [hup, hlong] at h
    simp only [beq_iff_eq, hup, if_false, hlong] at h ⊢
    cases he : tree.find? (here ++ [name]) with
    | none =>
      simp only [he] at h ⊢
      rw [ih h]
      by_cases hp : place = here ++ [name]
      · subst hp
        simp [find?_store_self hplace]
      · simp [find?_store_of_ne hp, hp]
    | some entry =>
      cases entry with
      | directory =>
        simp only [he] at h ⊢
        rw [ih h]
        by_cases hp : place = here ++ [name]
        · subst hp
          simp [he]
        · simp [hp]
      | file bytes => simp [he] at h

/-- Names lead to their goal where all they pass are directories, unless one is too long. -/
theorem walk_of_directories {tree : FileTree} {names : List String} {here : List String}
    (h : ∀ place ∈ stops here names.dropLast, tree.find? place = some .directory) :
    walk tree here names = if Fits names then .ok (goal here names) else .error .tooLong := by
  induction names generalizing here with
  | nil => simp [walk, Fits, goal]
  | cons name rest ih =>
    rw [walk, goal]
    simp only [fits_cons]
    by_cases hup : name = ".."
    · have hrest : ∀ place ∈ stops (above here) rest.dropLast,
          tree.find? place = some .directory := by
        cases rest with
        | nil => simp [stops]
        | cons other rest => simpa [stops, hup] using h
      simpa [hup] using ih hrest
    by_cases hlong : nameLimit < name.utf8ByteSize
    · simp [hup, hlong, Nat.not_le.mpr hlong]
    have hfits : name.utf8ByteSize ≤ nameLimit := Nat.not_lt.mp hlong
    cases rest with
    | nil => simp [hup, hlong, hfits, Fits, goal]
    | cons other rest =>
      simp only [List.dropLast_cons_cons, stops, beq_iff_eq, hup, if_false,
        List.forall_mem_cons] at h
      simpa [hup, hlong, hfits, h.1] using ih h.2

end Crosslink.FileTree

namespace Crosslink

/-- The places that must be directories for the path to be a file. -/
def Path.stops (p : Path) : List (List String) := FileTree.stops [] p.segments.dropLast

/-- The place to which the path leads. -/
def Path.goal (p : Path) : List String := FileTree.goal [] p.segments

/-- Neither path leads to a place that the other one passes. -/
def Path.Apart (p q : Path) : Prop := p.goal ∉ q.stops ∧ q.goal ∉ p.stops

theorem Path.Apart.symm {p q : Path} (h : p.Apart q) : q.Apart p := ⟨h.2, h.1⟩

namespace FileTree

/-- A file can be written under the path. -/
structure Plantable (tree : FileTree) (p : Path) : Prop where
  parent : checkPath p.parent = .ok ()
  path : checkPath p = .ok ()
  relative : p.isAbsolute = false
  fits : Fits p.segments
  clear : ∀ place ∈ p.stops, ¬ tree.IsFile place
  off : p.goal ∉ p.stops
  free : tree.find? p.goal ≠ some .directory

variable {tree : FileTree} {p q : Path}

theorem fits_dropLast {names : List String} (h : Fits names) : Fits names.dropLast :=
  fun name hname => h name (List.dropLast_subset _ hname)

/-- The directories above a file can be made exactly if the path of its directory is one, and
no file is on the way. -/
theorem makeDirectory_parent_ok_iff :
    (tree.makeDirectory p.parent).2 = .ok () ↔
      checkPath p.parent = .ok () ∧ p.isAbsolute = false ∧ Fits p.segments.dropLast ∧
        ∀ place ∈ p.stops, ¬ tree.IsFile place := by
  rw [makeDirectory]
  cases checkPath p.parent with
  | error f => simp
  | ok _ =>
    change (if p.isAbsolute then _ else makeFrom [] tree p.segments.dropLast).2 = _ ↔ _
    cases p.isAbsolute with
    | true => simp
    | false =>
      have hmake := makeFrom_ok_iff p.segments.dropLast [] tree
      rw [Path.stops]
      simpa using hmake

theorem find?_makeDirectory_parent (h : (tree.makeDirectory p.parent).2 = .ok ())
    (place : List String) : (tree.makeDirectory p.parent).1.find? place =
      if place ∈ p.stops then some .directory else tree.find? place := by
  obtain ⟨hcheck, hrel, -⟩ := makeDirectory_parent_ok_iff.mp h
  have hmake : tree.makeDirectory p.parent = makeFrom [] tree p.segments.dropLast := by
    rw [makeDirectory, hcheck]
    change (if p.isAbsolute then _ else _) = _
    rw [hrel]
    rfl
  rw [hmake] at h ⊢
  exact find?_makeFrom h place

/-- Once made, the directories stand above the file. -/
theorem find?_stop_makeDirectory_parent (h : (tree.makeDirectory p.parent).2 = .ok ())
    {place : List String} (hplace : place ∈ p.stops) :
    (tree.makeDirectory p.parent).1.find? place = some .directory := by
  rw [find?_makeDirectory_parent h, if_pos hplace]

/-- Names that lead up end in a directory, so no file is free to be written there. -/
theorem leadsUp_eq_false_of_free {place : List String} (h : tree.find? place ≠ some .directory) :
    leadsUp place = false := by
  cases hup : leadsUp place with
  | false => rfl
  | true => exact absurd (find?_of_leadsUp hup tree) h

/-- Once its directories are made, a file is written at the goal of its path or not at all. -/
theorem write_ok_iff (hrel : p.isAbsolute = false)
    (h : ∀ place ∈ p.stops, tree.find? place = some .directory) (bytes : List UInt8)
    (tree' : FileTree) :
    tree.write p bytes = .ok tree' ↔ checkPath p = .ok () ∧ Fits p.segments ∧
      tree.find? p.goal ≠ some .directory ∧ tree' = tree.store p.goal (.file bytes) := by
  have hwalk := walk_of_directories h
  rw [write, locate]
  cases checkPath p with
  | error f => simp [bind, Except.bind]
  | ok _ =>
    rw [hwalk]
    by_cases hfits : Fits p.segments
    · have hgoal : goal [] p.segments = p.goal := rfl
      rcases hg : tree.find? p.goal with _ | (_ | bytes') <;>
        simp [hrel, hfits, hgoal, hg, bind, Except.bind, pure, Except.pure, eq_comm]
    · simp [hrel, hfits, bind, Except.bind]

/-- Planting succeeds exactly on the paths under which a file can be written. -/
theorem plant_ok_iff (bytes : List UInt8) :
    (tree.plant p bytes).2 = .ok () ↔ tree.Plantable p := by
  rw [plant]
  rcases hm : tree.makeDirectory p.parent with ⟨made, f | _⟩
  · have hno : ¬ (tree.makeDirectory p.parent).2 = .ok () := by simp [hm]
    rw [makeDirectory_parent_ok_iff] at hno
    simp only [reduceCtorEq, false_iff]
    exact fun h => hno ⟨h.parent, h.relative, fits_dropLast h.fits, h.clear⟩
  · have hok : (tree.makeDirectory p.parent).2 = .ok () := by rw [hm]
    obtain ⟨hcheck, hrel, -, hclear⟩ := makeDirectory_parent_ok_iff.mp hok
    have hfind := find?_makeDirectory_parent hok
    have hdirs := fun place => @find?_stop_makeDirectory_parent tree p hok place
    rw [hm] at hfind hdirs
    have hgoal : made.find? p.goal ≠ some .directory ↔
        p.goal ∉ p.stops ∧ tree.find? p.goal ≠ some .directory := by
      rw [hfind]
      by_cases hs : p.goal ∈ p.stops <;> simp [hs]
    have hwrite := write_ok_iff hrel hdirs bytes
    rw [hgoal] at hwrite
    constructor
    · intro h
      simp only at h
      split at h
      · rename_i tree' hw
        obtain ⟨hpath, hfits, ⟨hoff, hfree⟩, -⟩ := (hwrite tree').mp hw
        exact ⟨hcheck, hpath, hrel, hfits, hclear, hoff, hfree⟩
      · cases h
    · intro h
      simp only
      rw [(hwrite _).mpr ⟨h.path, h.fits, ⟨h.off, h.free⟩, rfl⟩]

/-- A planted file stands at the goal of its path below directories, and all else is as
before. -/
theorem find?_plant (h : tree.Plantable p) (bytes : List UInt8) (place : List String) :
    (tree.plant p bytes).1.find? place =
      if place = p.goal then some (.file bytes)
      else if place ∈ p.stops then some .directory else tree.find? place := by
  have hmake : (tree.makeDirectory p.parent).2 = .ok () :=
    makeDirectory_parent_ok_iff.mpr ⟨h.parent, h.relative, fits_dropLast h.fits, h.clear⟩
  have hfind := find?_makeDirectory_parent hmake
  have hdirs := fun place => @find?_stop_makeDirectory_parent tree p hmake place
  rw [plant]
  rcases hm : tree.makeDirectory p.parent with ⟨made, f | _⟩
  · simp [hm] at hmake
  rw [hm] at hfind hdirs
  have hfree : made.find? p.goal ≠ some .directory := by
    rw [hfind, if_neg h.off]
    exact h.free
  have hwrite := (write_ok_iff h.relative hdirs bytes _).mpr ⟨h.path, h.fits, hfree, rfl⟩
  simp only [hwrite]
  by_cases hp : place = p.goal
  · subst hp
    rw [find?_store_self (leadsUp_eq_false_of_free h.free), if_pos rfl]
  · rw [find?_store_of_ne hp, if_neg hp, hfind]

/-- After one file is planted, another one can be exactly if it could be before and neither is
in the way of the other. -/
theorem plantable_plant (h : tree.Plantable p) (bytes : List UInt8) :
    (tree.plant p bytes).1.Plantable q ↔ tree.Plantable q ∧ p.Apart q := by
  have hfile : ∀ place, (tree.plant p bytes).1.IsFile place ↔
      place = p.goal ∨ tree.IsFile place := by
    intro place
    rw [IsFile, find?_plant h]
    by_cases hp : place = p.goal
    · simp [hp]
    · by_cases hs : place ∈ p.stops
      · simpa [hp, hs] using h.clear place hs
      · simp [hp, hs, IsFile]
  have hfree : (tree.plant p bytes).1.find? q.goal ≠ some .directory ↔
      q.goal ∉ p.stops ∧ tree.find? q.goal ≠ some .directory := by
    rw [find?_plant h]
    by_cases hp : q.goal = p.goal
    · simpa [hp] using ⟨h.off, h.free⟩
    · by_cases hs : q.goal ∈ p.stops <;> simp [hp, hs]
  constructor
  · intro hq
    refine ⟨⟨hq.parent, hq.path, hq.relative, hq.fits, fun place hp hf => ?_, hq.off,
      (hfree.mp hq.free).2⟩, fun hp => ?_, (hfree.mp hq.free).1⟩
    · exact hq.clear place hp ((hfile place).mpr (.inr hf))
    · exact hq.clear _ hp ((hfile _).mpr (.inl rfl))
  · rintro ⟨hq, hpq, hqp⟩
    refine ⟨hq.parent, hq.path, hq.relative, hq.fits, fun place hp hf => ?_, hq.off,
      hfree.mpr ⟨hqp, hq.free⟩⟩
    rcases (hfile place).mp hf with rfl | hf
    · exact hpq hp
    · exact hq.clear place hp hf

/-- Plant files one after the other, up to the first that cannot be written. -/
def plantAll (tree : FileTree) : List (Path × List UInt8) → FileTree × Except TreeFault Unit
  | [] => (tree, .ok ())
  | (p, bytes) :: rest =>
    match tree.plant p bytes with
    | (tree, .ok ()) => plantAll tree rest
    | (tree, .error f) => (tree, .error f)

/-- All files can be planted exactly if each can and no two are in each other's way. -/
theorem plantAll_ok_iff (files : List (Path × List UInt8)) (tree : FileTree) :
    (tree.plantAll files).2 = .ok () ↔
      (∀ file ∈ files, tree.Plantable file.1) ∧ (files.map (·.1)).Pairwise Path.Apart := by
  induction files generalizing tree with
  | nil => simp [plantAll]
  | cons file rest ih =>
    obtain ⟨p, bytes⟩ := file
    have hplant := @plant_ok_iff tree p bytes
    rw [plantAll, List.map_cons, List.pairwise_cons, List.forall_mem_cons]
    rcases hp : tree.plant p bytes with ⟨tree', f | _⟩
    · rw [hp] at hplant
      simp [← hplant]
    · have hp' : tree.Plantable p := hplant.mp (by rw [hp])
      have hrest : ∀ q, tree'.Plantable q ↔ tree.Plantable q ∧ p.Apart q := by
        intro q
        rw [← plantable_plant hp' bytes, hp]
      simp only [ih, hrest, hp', true_and, List.forall_mem_map]
      constructor
      · rintro ⟨hall, hpairs⟩
        exact ⟨fun file hf => (hall file hf).1, fun file hf => (hall file hf).2, hpairs⟩
      · rintro ⟨hall, hapart, hpairs⟩
        exact ⟨fun file hf => ⟨hall file hf, hapart file hf⟩, hpairs⟩

end FileTree

end Crosslink
