import Crosslink.Log.Setup
import Crosslink.Proofs.FileTree.Planting

/-!
# Opening a log file

Opening a log file makes the directories above it and the file itself, if they do not exist. No
other file is made, and none is changed.
-/

namespace Crosslink

namespace FileTree

variable {tree : FileTree} {p : Path}

/-- Over directories a path leads to the entry at its goal. -/
theorem entry?_of_directories (hrel : p.isAbsolute = false)
    (h : ∀ place ∈ p.stops, tree.find? place = some .directory) (hcheck : checkPath p = .ok ())
    (hfits : Fits p.segments) : tree.entry? p = tree.find? p.goal := by
  have hwalk := walk_of_directories h
  rw [if_pos hfits] at hwalk
  rw [FileTree.entry?, look, locate, hcheck, hrel]
  simp only [bind, Except.bind, Bool.false_eq_true, if_false, hwalk]
  rfl

/-- Over directories a path leads nowhere else than to its goal. -/
theorem find?_goal_of_some {entry : Entry} (hrel : p.isAbsolute = false)
    (h : ∀ place ∈ p.stops, tree.find? place = some .directory)
    (hentry : tree.entry? p = some entry) : tree.find? p.goal = some entry := by
  cases hcheck : checkPath p with
  | error f =>
    rw [FileTree.entry?, look, locate, hcheck] at hentry
    cases f <;> cases hentry
  | ok _ =>
    by_cases hfits : Fits p.segments
    · rw [← entry?_of_directories hrel h hcheck hfits, hentry]
    · have hwalk := walk_of_directories h
      rw [if_neg hfits] at hwalk
      rw [FileTree.entry?, look, locate, hcheck, hrel] at hentry
      simp only [bind, Except.bind, Bool.false_eq_true, if_false, hwalk] at hentry
      cases hentry

/-- Making directories neither makes nor changes files. -/
theorem file_makeDirectory_parent (h : (tree.makeDirectory p.parent).2 = .ok ())
    (place : List String) (bytes : List UInt8) :
    (tree.makeDirectory p.parent).1.find? place = some (.file bytes) ↔
      tree.find? place = some (.file bytes) := by
  obtain ⟨-, -, -, hclear⟩ := makeDirectory_parent_ok_iff.mp h
  rw [find?_makeDirectory_parent h]
  by_cases hstop : place ∈ p.stops
  · simpa [hstop] using fun hfile => hclear place hstop ⟨bytes, hfile⟩
  · rw [if_neg hstop]

end FileTree

namespace Log

open FileTree

/-- The files of a tree in which a log file is opened: those that were there, and the log file,
without content if it was not there. -/
theorem file_openFile {tree : FileTree} {file : Path} (h : (openFile tree file).2 = .ok ())
    (place : List String) (bytes : List UInt8) :
    (openFile tree file).1.find? place = some (.file bytes) ↔
      tree.find? place = some (.file bytes) ∨
        (place = file.goal ∧ tree.find? place = none ∧ bytes = []) := by
  rw [openFile] at h ⊢
  rcases hm : tree.makeDirectory file.parent with ⟨made, f | _⟩
  · simp [hm] at h
  have hok : (tree.makeDirectory file.parent).2 = .ok () := by rw [hm]
  obtain ⟨-, hrel, -⟩ := makeDirectory_parent_ok_iff.mp hok
  have hfind := find?_makeDirectory_parent hok
  have hdirs := fun place => @find?_stop_makeDirectory_parent tree file hok place
  have hfile := file_makeDirectory_parent hok
  rw [hm] at hfind hdirs hfile h
  simp only at h ⊢
  cases he : made.entry? file with
  | some entry =>
    cases entry with
    | directory => simp [he] at h
    | file old =>
      -- The log file was there before, so no place was without an entry.
      have hgoal := (hfile file.goal old).mp (find?_goal_of_some hrel hdirs he)
      simp only [hfile]
      constructor
      · exact .inl
      · rintro (hplace | ⟨rfl, hnone, -⟩)
        · exact hplace
        · cases hgoal.symm.trans hnone
  | none =>
    rw [he] at h
    simp only at h ⊢
    cases hw : made.write file [] with
    | error f => simp [hw] at h
    | ok tree' =>
      obtain ⟨hcheck, hfits, hdirectory, rfl⟩ := (write_ok_iff hrel hdirs [] tree').mp hw
      have hmade : made.find? file.goal = none :=
        (entry?_of_directories hrel hdirs hcheck hfits).symm.trans he
      have hgoal : tree.find? file.goal = none := by
        rw [hfind] at hmade
        split at hmade
        · cases hmade
        · exact hmade
      have hup := leadsUp_eq_false_of_free hdirectory
      by_cases hp : place = file.goal
      · subst hp
        simp [find?_store_self hup, hgoal, eq_comm]
      · simp [find?_store_of_ne hp, hfile, hp]

end Log

end Crosslink
