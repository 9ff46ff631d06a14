import Crosslink.IssueLog
import Crosslink.Proofs.Path.Order
import Crosslink.Proofs.Session.Perform

/-!
# The list of all issues

All issues of a log are those of its pages, page by page in the order of their paths. On
normal paths the list is therefore determined by what the log holds on each page: in which
order pages came to have issues leaves no trace.
-/

namespace Crosslink.IssueLog

/-- The pages that have issues, in the order of their first ones. -/
def files (log : IssueLog) : List Path := log.groups.map (·.1)

theorem nodup_files (log : IssueLog) : log.files.Nodup := log.distinct

/-- Where every page has one group, a group is found by its page. -/
theorem find?_group {groups : List (Path × List Issue)} (hd : (groups.map (·.1)).Nodup)
    {g : Path × List Issue} (h : g ∈ groups) :
    (groups.find? fun g' => decide (g'.1 = g.1)) = some g := by
  induction groups with
  | nil => cases h
  | cons x rest ih =>
    obtain ⟨hx, hrest⟩ := List.nodup_cons.mp hd
    rcases List.mem_cons.mp h with rfl | hg
    · simp
    · have hne : x.1 ≠ g.1 := fun e => hx (List.mem_map.mpr ⟨g, hg, e.symm⟩)
      rw [List.find?_cons_of_neg (by simpa using hne)]
      exact ih hrest hg

/-- The group of a page is what the log holds on it. -/
theorem forFile_of_mem {log : IssueLog} {g : Path × List Issue} (h : g ∈ log.groups) :
    log.forFile g.1 = g.2 := by
  rw [forFile, find?_group log.distinct h]

/-- A page is listed exactly when it has issues. -/
theorem mem_files {log : IssueLog} {file : Path} : file ∈ log.files ↔ log.forFile file ≠ [] := by
  constructor
  · intro h
    obtain ⟨g, hg, rfl⟩ := List.mem_map.mp h
    rw [forFile_of_mem hg]
    exact (log.own g hg).1
  · intro h
    rw [forFile] at h
    cases hf : log.groups.find? fun g => decide (g.1 = file) with
    | none => simp [hf] at h
    | some g =>
      refine List.mem_map.mpr ⟨g, List.mem_of_find?_eq_some hf, ?_⟩
      simpa using List.find?_some hf

/-- What the log holds on a page is its own. -/
theorem sourceFile_of_mem_forFile {log : IssueLog} {file : Path} {i : Issue}
    (h : i ∈ log.forFile file) : i.sourceFile = file := by
  have hmem : file ∈ log.files := mem_files.mpr (List.ne_nil_of_mem h)
  obtain ⟨g, hg, rfl⟩ := List.mem_map.mp hmem
  rw [forFile_of_mem hg] at h
  exact (log.own g hg).2 i h

/-- All issues, page by page. -/
theorem issues_eq (log : IssueLog) :
    log.issues = (log.files.mergeSort Path.le).flatMap log.forFile := by
  have hfiles : (log.groups.mergeSort fun g h => g.1.le h.1).map (·.1) =
      log.files.mergeSort Path.le := List.map_mergeSort fun _ _ _ _ => rfl
  rw [issues, ← hfiles, List.flatMap_map]
  refine List.flatMap_congr fun g hg => ?_
  exact (forFile_of_mem ((List.mergeSort_perm _ _).mem_iff.mp hg)).symm

/-- An issue is listed exactly when the log holds it on its page. -/
theorem mem_issues {log : IssueLog} {i : Issue} :
    i ∈ log.issues ↔ i ∈ log.forFile i.sourceFile := by
  rw [issues_eq, List.mem_flatMap]
  constructor
  · rintro ⟨file, -, hi⟩
    rwa [sourceFile_of_mem_forFile hi]
  · intro hi
    refine ⟨i.sourceFile, ?_, hi⟩
    exact (List.mergeSort_perm _ _).mem_iff.mpr (mem_files.mpr (List.ne_nil_of_mem hi))

/-- Nothing is listed exactly when no page has an issue. -/
theorem issues_eq_nil {log : IssueLog} : log.issues = [] ↔ ∀ file, log.forFile file = [] := by
  constructor
  · intro h file
    rw [List.eq_nil_iff_forall_not_mem]
    intro i hi
    have hlisted : i ∈ log.issues := mem_issues.mpr (by rwa [sourceFile_of_mem_forFile hi])
    simp [h] at hlisted
  · intro h
    rw [issues_eq, List.flatMap_eq_nil_iff]
    exact fun file _ => h file

/-- Of the issues of some pages, those of one page are what the log holds on it. -/
theorem filter_flatMap_forFile (log : IssueLog) (file : Path) {files : List Path}
    (hd : files.Nodup) :
    (files.flatMap log.forFile).filter (fun i => decide (i.sourceFile = file)) =
      if file ∈ files then log.forFile file else [] := by
  induction files with
  | nil => rfl
  | cons f rest ih =>
    obtain ⟨hf, hrest⟩ := List.nodup_cons.mp hd
    rw [List.flatMap_cons, List.filter_append, ih hrest]
    by_cases h : f = file
    · subst h
      have hown : (log.forFile f).filter (fun i => decide (i.sourceFile = f)) = log.forFile f :=
        List.filter_eq_self.mpr fun i hi => by simpa using sourceFile_of_mem_forFile hi
      rw [hown, if_neg hf, if_pos List.mem_cons_self, List.append_nil]
    · have hnone : (log.forFile f).filter (fun i => decide (i.sourceFile = file)) = [] :=
        List.filter_eq_nil_iff.mpr fun i hi => by simpa [sourceFile_of_mem_forFile hi] using h
      have hmem : file ∈ f :: rest ↔ file ∈ rest := by simp [Ne.symm h]
      rw [hnone, List.nil_append]
      simp only [hmem]

/-- Of the list, the issues of a page are those that the log holds on it. -/
theorem filter_issues (log : IssueLog) (file : Path) :
    log.issues.filter (fun i => decide (i.sourceFile = file)) = log.forFile file := by
  have hperm := List.mergeSort_perm log.files Path.le
  rw [issues_eq, filter_flatMap_forFile log file (hperm.nodup_iff.mpr log.nodup_files)]
  split
  · rfl
  · rename_i h
    have hfile : file ∉ log.files := fun hmem => h (hperm.mem_iff.mpr hmem)
    rw [mem_files, not_not] at hfile
    exact hfile.symm

/-- Logs that hold the same on every page list the same, if all pages with issues have normal
paths. -/
theorem issues_congr {a b : IssueLog} (hn : ∀ file, a.forFile file ≠ [] → file.IsNormal)
    (h : ∀ file, a.forFile file = b.forFile file) : a.issues = b.issues := by
  have hfiles : a.files.Perm b.files := by
    rw [List.perm_ext_iff_of_nodup a.nodup_files b.nodup_files]
    intro file
    rw [mem_files, mem_files, h]
  rw [issues_eq, issues_eq,
    Path.mergeSort_congr (fun file hf => hn file (mem_files.mp hf)) hfiles]
  exact List.flatMap_congr fun file _ => h file

/-- Pages without issues may be listed with the others. -/
theorem issues_eq_of_files {log : IssueLog} {files : List Path} (hd : files.Nodup)
    (hn : ∀ file ∈ files, file.IsNormal) (hall : ∀ file, log.forFile file ≠ [] → file ∈ files) :
    log.issues = (files.mergeSort Path.le).flatMap log.forFile := by
  let hasIssues : Path → Bool := fun file => !(log.forFile file).isEmpty
  have hkept : ∀ fs : List Path, (fs.filter hasIssues).flatMap log.forFile =
      fs.flatMap log.forFile := by
    intro fs
    induction fs with
    | nil => rfl
    | cons f rest ih =>
      rw [List.filter_cons, List.flatMap_cons, ← ih]
      by_cases hf : log.forFile f = [] <;> simp [hasIssues, hf]
  have hperm : log.files.Perm (files.filter hasIssues) := by
    rw [List.perm_ext_iff_of_nodup log.nodup_files (hd.filter _)]
    intro file
    rw [mem_files, List.mem_filter]
    simpa [hasIssues] using hall file
  have hsorted : ((files.mergeSort Path.le).filter hasIssues).Pairwise fun p q => p.le q = true :=
    (@List.pairwise_mergeSort _ Path.le (fun _ _ _ => Path.le_trans) Path.le_total files).filter _
  have hmerge : log.files.mergeSort Path.le = (files.mergeSort Path.le).filter hasIssues := by
    rw [Path.mergeSort_congr (fun file hf => hn file (hall file (mem_files.mp hf))) hperm]
    rw [Path.mergeSort_congr (fun file hf => hn file (List.mem_filter.mp hf).1)
      ((List.mergeSort_perm files Path.le).symm.filter _)]
    exact List.mergeSort_of_pairwise hsorted
  rw [issues_eq, hmerge, hkept]

end Crosslink.IssueLog
