import Crosslink.Proofs.FileTree.Planting

/-!
# Reading planted files

A planted file is read as it was written, also after other files have been planted, as long as
none of them is written to the same place with other bytes.
-/

namespace Crosslink.FileTree

/-- The path leads over directories to a file with these bytes. -/
structure Holds (tree : FileTree) (p : Path) (bytes : List UInt8) : Prop where
  path : checkPath p = .ok ()
  relative : p.isAbsolute = false
  fits : Fits p.segments
  directories : ∀ place ∈ p.stops, tree.find? place = some .directory
  file : tree.find? p.goal = some (.file bytes)

variable {tree tree' : FileTree} {p q : Path} {bytes : List UInt8}

/-- Such a file can be read. -/
theorem Holds.read (h : tree.Holds p bytes) : tree.read p = .ok bytes := by
  have hlocate : tree.locate p = .ok p.goal := by
    have hwalk := walk_of_directories h.directories
    rw [if_pos h.fits] at hwalk
    rw [locate, h.path, h.relative]
    exact hwalk
  rw [FileTree.read, hlocate]
  simp only [bind, Except.bind, h.file]
  rfl

/-- What is planted is there. -/
theorem Plantable.holds (h : tree.Plantable p) (bytes : List UInt8) :
    (tree.plant p bytes).1.Holds p bytes := by
  refine ⟨h.path, h.relative, h.fits, fun place hp => ?_, ?_⟩
  · have hne : place ≠ p.goal := fun e => h.off (e ▸ hp)
    rw [find?_plant h, if_neg hne, if_pos hp]
  · rw [find?_plant h, if_pos rfl]

/-- A file stays when another one is planted, or the same one again. -/
theorem Holds.plant (h : tree.Holds p bytes) (hq : tree.Plantable q) {new : List UInt8}
    (hsame : q.goal = p.goal → new = bytes) : (tree.plant q new).1.Holds p bytes := by
  refine ⟨h.path, h.relative, h.fits, fun place hp => ?_, ?_⟩
  · have hne : place ≠ q.goal := by
      rintro rfl
      exact hq.free (h.directories _ hp)
    rw [find?_plant hq, if_neg hne, h.directories place hp, ite_self]
  · rw [find?_plant hq]
    by_cases hgoal : p.goal = q.goal
    · rw [if_pos hgoal, hsame hgoal.symm]
    · have hstop : p.goal ∉ q.stops := fun hp => hq.clear _ hp ⟨bytes, h.file⟩
      rw [if_neg hgoal, if_neg hstop, h.file]

/-- Files can be planted exactly if the first can and the others can after it. -/
theorem plantAll_cons_ok {new : List UInt8} {rest : List (Path × List UInt8)} :
    tree.plantAll ((q, new) :: rest) = (tree', .ok ()) ↔
      tree.Plantable q ∧ (tree.plant q new).1.plantAll rest = (tree', .ok ()) := by
  rw [← plant_ok_iff new, plantAll]
  rcases tree.plant q new with ⟨made, f | _⟩ <;> simp

theorem Holds.plantAll {files : List (Path × List UInt8)} (h : tree.Holds p bytes)
    (hplant : tree.plantAll files = (tree', .ok ()))
    (hsame : ∀ file ∈ files, file.1.goal = p.goal → file.2 = bytes) : tree'.Holds p bytes := by
  induction files generalizing tree with
  | nil =>
    cases hplant
    exact h
  | cons file rest ih =>
    obtain ⟨hq, hrest⟩ := plantAll_cons_ok.mp hplant
    exact ih (h.plant hq (hsame file List.mem_cons_self)) hrest
      fun file hf => hsame file (List.mem_cons_of_mem _ hf)

/-- After all files are planted each of them is there, unless another one took its place. -/
theorem holds_plantAll {before after : List (Path × List UInt8)}
    (hplant : tree.plantAll (before ++ (p, bytes) :: after) = (tree', .ok ()))
    (hsame : ∀ file ∈ after, file.1.goal = p.goal → file.2 = bytes) :
    tree'.Holds p bytes := by
  induction before generalizing tree with
  | nil =>
    obtain ⟨hp, hafter⟩ := plantAll_cons_ok.mp hplant
    exact (hp.holds bytes).plantAll hafter hsame
  | cons file before ih => exact ih (plantAll_cons_ok.mp hplant).2

end Crosslink.FileTree
