import Crosslink.Proofs.Build.Finished

/-!
# Whether builds come to their end

A build of all content files, seen by someone who only asks whether it has come to its end and
whether it has met a problem. A strict build comes to its end exactly if a permissive one has no
problem, whatever the paths are. A build that writes its pages comes to its end exactly if one
that writes nothing does and the pages can be written, and then has its problems.
-/

namespace Crosslink

namespace Build

variable {settings : Settings} {tree : FileTree} {r : Registry} {paths : List Path}
  {issues : IssueLog} {loaded : Loaded} {resolved : List (Page × PageReport)}

/-- A build of all content files on a fresh session, one page after the other. -/
def runAll (settings : Settings) (tree : FileTree) (write : Bool) :
    Except Failure BuildResult × Workspace :=
  Workspace.perform ⟨tree, .empty⟩ (run settings none write)

/-- A build of all content files is one of the files that are found. -/
theorem runAll_eq (settings : Settings) (tree : FileTree) (write : Bool) :
    runAll settings tree write =
      match discover tree settings.contentRoot settings.extensions with
      | .ok found => Workspace.perform ⟨tree, .empty⟩ (run settings (some found) write)
      | .error f => (.error f, ⟨tree, .empty⟩) :=
  perform_runWith_none ⟨tree, .empty⟩ (resolveAll settings.policy) write

theorem builds_run (settings : Settings) (w : Workspace) (paths : List Path) (write : Bool) :
    Builds settings write w.tree w.session.registry paths
      (w.perform (run settings (some paths) write)).1
      (w.perform (run settings (some paths) write)).2.tree
      (w.perform (run settings (some paths) write)).2.session.registry
      (w.perform (run settings (some paths) write)).2.session.issues := by
  let σ : Scheduler settings.policy settings.workers := .sequential _ _
  exact builds σ w paths write

/-- A strict build of all content files has a result exactly if a permissive one has it and it is
without problems. -/
theorem runAll_strict_ok_iff (settings : Settings) (tree : FileTree) (write : Bool)
    (result : BuildResult) :
    (runAll (settings.withStrict true) tree write).1 = .ok result ↔
      (runAll (settings.withStrict false) tree write).1 = .ok result ∧ result.ok = true := by
  rw [runAll_eq, runAll_eq]
  cases discover tree settings.contentRoot settings.extensions with
  | error f => simp
  | ok found =>
    exact Builds.strict_ok_iff (builds_run (settings.withStrict false) _ found write)
      (builds_run (settings.withStrict true) _ found write) result

/-- Whether there is a result without problems does not depend on strictness. -/
theorem runAll_passes (settings : Settings) (strict : Bool) (tree : FileTree) (write : Bool) :
    (∃ result, (runAll (settings.withStrict strict) tree write).1 = .ok result ∧
        result.ok = true) ↔
      ∃ result, (runAll (settings.withStrict false) tree write).1 = .ok result ∧
        result.ok = true := by
  cases strict with
  | false => exact Iff.rfl
  | true =>
    refine exists_congr fun result => ?_
    rw [runAll_strict_ok_iff, and_assoc, and_self]

/-- The files under which the pages of all content files are published can be written one after
the other. -/
def Writable (settings : Settings) (tree : FileTree) : Prop :=
  ∀ paths, discover tree settings.contentRoot settings.extensions = .ok paths →
    (tree.plantAll ((targets settings (loadedPages settings tree paths)).map (·, []))).2 = .ok ()

theorem Writable.of_found (paths : List Path)
    (hfound : discover tree settings.contentRoot settings.extensions = .ok paths)
    (hplant : (tree.plantAll ((targets settings (loadedPages settings tree paths)).map
      (·, []))).2 = .ok ()) : Writable settings tree := by
  intro found h
  obtain rfl := Except.ok.inj (hfound.symm.trans h)
  exact hplant

/-- Whether files can be planted depends on their paths only. -/
theorem plantAll_ok_congr {files files' : List (Path × List UInt8)}
    (h : files.map (·.1) = files'.map (·.1)) :
    (tree.plantAll files).2 = .ok () ↔ (tree.plantAll files').2 = .ok () := by
  have hmem (fs : List (Path × List UInt8)) :
      (∀ file ∈ fs, tree.Plantable file.1) ↔ ∀ file ∈ fs.map (·.1), tree.Plantable file := by
    rw [List.forall_mem_map]
  rw [FileTree.plantAll_ok_iff, FileTree.plantAll_ok_iff, hmem, hmem, h]

/-- Resolved pages are published under the files of the loaded ones. -/
theorem Traversed.plantings (h : Traversed settings tree r paths loaded resolved issues) :
    (plantings settings (resolved.map (·.1))).map (·.1) = targets settings loaded.pages := by
  rw [pages_of_settled h.completed.settled]
  simp only [Build.plantings, targets, List.map_map]
  rfl

/-- Where pages can be written, a build that writes them comes to its end exactly if one does that
writes nothing. -/
theorem runAll_write_isOk {settings : Settings} {tree : FileTree} (h : Writable settings tree) :
    (∃ result, (runAll settings tree true).1 = .ok result) ↔
      ∃ result, (runAll settings tree false).1 = .ok result := by
  rw [runAll_eq, runAll_eq]
  cases hfound : discover tree settings.contentRoot settings.extensions with
  | error f => simp
  | ok found =>
    let σ : Scheduler settings.policy settings.workers := .sequential _ _
    have hprepares := prepares σ ⟨tree, .empty⟩ found
    have hrun : run settings = runWith σ.resolve settings := rfl
    simp only [hrun, perform_runWith]
    rcases hp : Workspace.perform ⟨tree, .empty⟩ (prepare σ.resolve settings found) with
      ⟨f | ⟨loaded, resolved⟩, v⟩
    · simp
    · rw [hp] at hprepares
      obtain ⟨htree, hprepare⟩ := hprepares
      have htree : v.tree = tree := htree
      obtain ⟨-, ht⟩ := Prepares.traversed hprepare
      obtain ⟨-, -, hloaded, -⟩ := loads_ok_iff.mp ht.loads
      have hplant : (v.tree.plantAll (plantings settings (resolved.map (·.1)))).2 = .ok () := by
        rw [htree]
        refine (plantAll_ok_congr ?_).mp (h found hfound)
        rw [ht.plantings, hloaded, List.map_map]
        exact List.map_id _
      obtain ⟨_, hpublish⟩ := gives_publish settings true v loaded resolved
      obtain ⟨_, hpublish'⟩ := gives_publish settings false v loaded resolved
      simp only [hpublish, hpublish', written, if_true, hplant]
      exact ⟨fun _ => ⟨_, rfl⟩, fun _ => ⟨_, rfl⟩⟩

/-- Where pages can be written, writing them is no problem. -/
theorem runAll_write_passes {settings : Settings} {tree : FileTree} (h : Writable settings tree) :
    (∃ result, (runAll (settings.withStrict false) tree true).1 = .ok result ∧
        result.ok = true) ↔
      ∃ result, (runAll (settings.withStrict false) tree false).1 = .ok result ∧
        result.ok = true := by
  -- A strict build has no other result, and whether it has one does not depend on writing.
  have hstrict : Writable (settings.withStrict true) tree := h
  simp only [← runAll_strict_ok_iff]
  exact runAll_write_isOk hstrict

/-- A build that writes nothing leaves the tree alone. -/
theorem Builds.tree_eq {outcome : Except Failure BuildResult} {t : FileTree} {r' : Registry}
    (h : Builds settings false tree r paths outcome t r' issues) : t = tree := by
  cases h <;> rfl

theorem tree_runAll (settings : Settings) (tree : FileTree) :
    (runAll settings tree false).2.tree = tree := by
  rw [runAll_eq]
  cases discover tree settings.contentRoot settings.extensions with
  | error f => rfl
  | ok found => exact (builds_run settings ⟨tree, .empty⟩ found false).tree_eq

end Build

end Crosslink
