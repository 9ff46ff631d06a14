import Crosslink.Issue

/-!
# Collected issues

Issues are kept by page, in the order in which they were reported, and are listed in the
order of the pages' paths.
-/

namespace Crosslink

namespace IssueLog

/-- Add an issue to the group of its page. -/
def addTo (i : Issue) : List (Path × List Issue) → List (Path × List Issue)
  | [] => [(i.sourceFile, [i])]
  | g :: rest => if g.1 = i.sourceFile then (g.1, g.2 ++ [i]) :: rest else g :: addTo i rest

/-- An added issue makes no new page but its own. -/
theorem mem_of_mem_addTo {i : Issue} {groups : List (Path × List Issue)} {file : Path}
    (h : file ∈ (addTo i groups).map (·.1)) : file = i.sourceFile ∨ file ∈ groups.map (·.1) := by
  induction groups with
  | nil => simpa [addTo] using h
  | cons g rest ih =>
    by_cases hg : g.1 = i.sourceFile
    · simp only [addTo, if_pos hg, List.map_cons, List.mem_cons] at h ⊢
      exact .inr h
    · simp only [addTo, if_neg hg, List.map_cons, List.mem_cons] at h ⊢
      rcases h with h | h
      · exact .inr (.inl h)
      · exact (ih h).imp id .inr

theorem nodup_addTo (i : Issue) {groups : List (Path × List Issue)}
    (h : (groups.map (·.1)).Nodup) : ((addTo i groups).map (·.1)).Nodup := by
  induction groups with
  | nil => simp [addTo]
  | cons g rest ih =>
    obtain ⟨hg, hrest⟩ := List.nodup_cons.mp h
    by_cases hi : g.1 = i.sourceFile
    · rw [addTo, if_pos hi]
      exact h
    · simp only [addTo, if_neg hi, List.map_cons]
      refine List.nodup_cons.mpr ⟨fun hmem => ?_, ih hrest⟩
      rcases mem_of_mem_addTo hmem with he | hmem
      · exact hi he
      · exact hg hmem

/-- An added issue belongs to the page of its group. -/
theorem own_addTo (i : Issue) {groups : List (Path × List Issue)}
    (h : ∀ g ∈ groups, g.2 ≠ [] ∧ ∀ j ∈ g.2, j.sourceFile = g.1) :
    ∀ g ∈ addTo i groups, g.2 ≠ [] ∧ ∀ j ∈ g.2, j.sourceFile = g.1 := by
  induction groups with
  | nil => simp [addTo]
  | cons g rest ih =>
    obtain ⟨hg, hrest⟩ := List.forall_mem_cons.mp h
    by_cases hi : g.1 = i.sourceFile
    · rw [addTo, if_pos hi]
      refine List.forall_mem_cons.mpr ⟨⟨by simp, fun j hj => ?_⟩, hrest⟩
      rcases List.mem_append.mp hj with hj | hj
      · exact hg.2 j hj
      · rw [List.mem_singleton.mp hj]
        exact hi.symm
    · rw [addTo, if_neg hi]
      exact List.forall_mem_cons.mpr ⟨hg, ih hrest⟩

end IssueLog

/-- The issues of each page, pages in the order of their first issues. -/
structure IssueLog where
  groups : List (Path × List Issue)
  distinct : (groups.map (·.1)).Nodup
  /-- A page is listed for an issue, and all issues listed for it are its own. -/
  own : ∀ g ∈ groups, g.2 ≠ [] ∧ ∀ i ∈ g.2, i.sourceFile = g.1
  deriving DecidableEq, Repr

namespace IssueLog

/-- The log without issues. -/
def empty : IssueLog := ⟨[], .nil, by simp⟩

/-- Report an issue. -/
def add (log : IssueLog) (i : Issue) : IssueLog :=
  ⟨addTo i log.groups, nodup_addTo i log.distinct, own_addTo i log.own⟩

/-- The issues of a page in the order in which they were reported. -/
def forFile (log : IssueLog) (file : Path) : List Issue :=
  match log.groups.find? fun g => decide (g.1 = file) with
  | some g => g.2
  | none => []

/-- All issues, in the order of their pages. -/
def issues (log : IssueLog) : List Issue :=
  (log.groups.mergeSort fun g h => g.1.le h.1).flatMap (·.2)

/-- Has an issue been reported? -/
def hasIssues (log : IssueLog) : Bool := log.groups.any fun g => !g.2.isEmpty

/-- The kinds that occur in a list, each once, with their numbers. -/
def countKinds (issues : List Issue) : List (IssueKind × Nat) :=
  (IssueKind.all.map fun k => (k, (issues.filter fun i => i.kind = k).length)).filter
    fun c => c.2 != 0

/-- The numbers of issues by kind. -/
def counts (log : IssueLog) : List (IssueKind × Nat) := countKinds log.issues

@[simp] theorem forFile_empty (file : Path) : empty.forFile file = [] := rfl

/-- A reported issue is listed last for its page and not at all for others. -/
theorem forFile_add (log : IssueLog) (i : Issue) (file : Path) :
    (log.add i).forFile file
      = log.forFile file ++ if i.sourceFile = file then [i] else [] := by
  change (match (addTo i log.groups).find? fun g => decide (g.1 = file) with
    | some g => g.2
    | none => []) = _
  rw [forFile]
  induction log.groups with
  | nil => by_cases h : i.sourceFile = file <;> simp [addTo, h]
  | cons g rest ih =>
    by_cases hg : g.1 = i.sourceFile
    · by_cases h : i.sourceFile = file <;> simp [addTo, hg, h]
    · simp only [addTo, if_neg hg]
      by_cases h : g.1 = file
      · have hi : i.sourceFile ≠ file := fun e => hg (h.trans e.symm)
        simp [h, hi]
      · simpa [h] using ih

end IssueLog

end Crosslink
