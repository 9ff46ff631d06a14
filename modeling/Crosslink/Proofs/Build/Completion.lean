import Crosslink.Proofs.Build.Plan

/-!
# Completed builds

When a permissive build from distinct paths comes to its end: there must be workers, every file
must load or have an error of its own, every page must register, and the files to which pages
are written must not be in each other's way. The result is then known.
-/

namespace Crosslink

/-- The settings with another number of workers. -/
abbrev Settings.withWorkers (settings : Settings) (n : Nat) : Settings :=
  { settings with workers := n }

namespace Build

variable {settings : Settings} {tree : FileTree} {r : Registry} {paths : List Path}

/-- The files to which pages are written. -/
def targets (settings : Settings) (pages : List Page) : List Path :=
  pages.map fun p => settings.outputDir.join p.relativePath

/-- A permissive build from the paths comes to its end. -/
structure Completes (settings : Settings) (write : Bool) (tree : FileTree) (r : Registry)
    (paths : List Path) : Prop where
  workers : 0 < settings.workers
  loads : ∀ file ∈ paths, Page.Loads tree settings.contentRoot file
  registers : (registration settings (Loaded.among tree settings.contentRoot paths) r).outcome
    = .ok ()
  writes : write = true →
    (∀ file ∈ targets settings (Loaded.among tree settings.contentRoot paths).pages,
      tree.Plantable file) ∧
    (targets settings (Loaded.among tree settings.contentRoot paths).pages).Pairwise Path.Apart

/-- Resolved pages are written to the same files. -/
theorem plantings_resolution (registered : Registered) (pages : List Page) :
    (plantings settings ((resolution settings registered pages).map (·.1))).map (·.1) =
      targets settings pages := by
  simp only [plantings, resolution, targets, List.map_map]
  rfl

theorem written_ok_iff (write : Bool) (registered : Registered) (pages : List Page)
    (files : List Path) :
    (written settings write tree ((resolution settings registered pages).map (·.1))).2 =
        .ok files ↔
      (write = true → (∀ file ∈ targets settings pages, tree.Plantable file) ∧
        (targets settings pages).Pairwise Path.Apart) ∧
      files = if write then targets settings pages else [] := by
  cases write with
  | false => simp [written, eq_comm]
  | true =>
    have hok := FileTree.plantAll_ok_iff
      (plantings settings ((resolution settings registered pages).map (·.1))) tree
    have hmem : (∀ file ∈ plantings settings ((resolution settings registered pages).map (·.1)),
        tree.Plantable file.1) ↔ ∀ file ∈ targets settings pages, tree.Plantable file := by
      rw [← plantings_resolution registered, List.forall_mem_map]
    rw [plantings_resolution, hmem] at hok
    rw [written, if_pos rfl, plantings_resolution]
    cases hplant : (tree.plantAll
        (plantings settings ((resolution settings registered pages).map (·.1)))).2 with
    | error f =>
      rw [hplant] at hok
      simp [← hok]
    | ok _ =>
      rw [if_pos rfl]
      constructor
      · intro h
        exact ⟨fun _ => hok.mp hplant, (Except.ok.inj h).symm⟩
      · rintro ⟨-, rfl⟩
        rfl

/-- A permissive build completes under these conditions, and its result is known. -/
theorem Builds.ok_iff (hs : settings.strict = false) (hd : paths.Nodup) {write : Bool}
    {outcome : Except Failure BuildResult} {t : FileTree} {r' : Registry} {issues : IssueLog}
    (h : Builds settings write tree r paths outcome t r' issues) (result : BuildResult) :
    outcome = .ok result ↔ Completes settings write tree r paths ∧
      result = summary (Loaded.among tree settings.contentRoot paths)
        (resolution settings (registration settings
            (Loaded.among tree settings.contentRoot paths) r)
          (Loaded.among tree settings.contentRoot paths).pages) issues
        (if write then targets settings (Loaded.among tree settings.contentRoot paths).pages
          else []) := by
  constructor
  · rintro rfl
    obtain ⟨loaded, resolved, files, hprepare, hw, rfl⟩ := h.of_ok
    have hp := hprepare.prepared hd
    obtain ⟨hwork, hload, rfl, -⟩ := loads_ok_iff.mp hp.loads
    rw [hp.resolved] at hw ⊢
    obtain ⟨hwrites, rfl⟩ := (written_ok_iff write _ _ _).mp hw
    exact ⟨⟨hwork, hload, hp.registers, hwrites⟩, rfl⟩
  · rintro ⟨hc, rfl⟩
    have hload := loads_ok_iff.mpr ⟨hc.workers, hc.loads, rfl, by simp [hs]⟩
    have hplan := plan_ok_of_permissive hs hload hc.registers
    cases h with
    | stopped hprepare => cases (hprepare.eq_plan hd).trans hplan
    | published hprepare =>
      cases (hprepare.eq_plan hd).trans hplan
      rw [(written_ok_iff write _ _ _).mpr ⟨hc.writes, rfl⟩]
      rfl

/-- What a build leaves that has come to its end. -/
theorem Builds.prepared (hd : paths.Nodup) {write : Bool} {result : BuildResult} {t : FileTree}
    {r' : Registry} {issues : IssueLog}
    (h : Builds settings write tree r paths (.ok result) t r' issues) :
    ∃ resolved, Prepared settings tree r paths (Loaded.among tree settings.contentRoot paths)
      resolved r' issues := by
  obtain ⟨loaded, resolved, files, hprepare, -, -⟩ := h.of_ok
  have hp := hprepare.prepared hd
  obtain ⟨-, -, rfl, -⟩ := loads_ok_iff.mp hp.loads
  exact ⟨resolved, hp⟩

/-- A build from the paths on a fresh session, by a number of workers. -/
def runFresh (settings : Settings) {n : Nat} (σ : Scheduler settings.policy n) (tree : FileTree)
    (paths : List Path) (write : Bool) : Except Failure BuildResult × Workspace :=
  Workspace.perform ⟨tree, .empty⟩
    (runWith σ.resolve (settings.withWorkers n) (some paths) write)

theorem builds_runFresh (settings : Settings) {n : Nat} (σ : Scheduler settings.policy n)
    (tree : FileTree) (paths : List Path) (write : Bool) :
    Builds (settings.withWorkers n) write tree .empty paths
      (runFresh settings σ tree paths write).1 (runFresh settings σ tree paths write).2.tree
      (runFresh settings σ tree paths write).2.session.registry
      (runFresh settings σ tree paths write).2.session.issues :=
  @builds (settings.withWorkers n) σ ⟨tree, .empty⟩ paths write

/-- A permissive build of files completes if each of them is a page or has an error, each page can
be registered by itself, and their targets can be planted one after the other. -/
theorem Completes.of_checks {write : Bool} (hs : settings.strict = false)
    (hw : 0 < settings.workers)
    (hload : ∀ file ∈ paths, (Page.loaded? tree settings.contentRoot file).isSome = true ∨
      (Page.failed? tree settings.contentRoot file).isSome = true)
    (hregister : ∀ p ∈ (Loaded.among tree settings.contentRoot paths).pages,
      (Registered.ofPage settings.policy p.metadata p.sourceFile r).outcome = .ok ())
    (hplant : (tree.plantAll ((targets settings
      (Loaded.among tree settings.contentRoot paths).pages).map (·, []))).2 = .ok ()) :
    Completes settings write tree r paths := by
  have hstrict : settings.policy.strict = false := hs
  refine ⟨hw, fun file hf => Page.loads_iff.mpr (hload file hf), ?_, fun _ => ?_⟩
  · rw [registration, Registered.outcome_all_of_permissive hstrict]
    exact hregister
  · obtain ⟨hall, hpairs⟩ := (FileTree.plantAll_ok_iff _ _).mp hplant
    rw [List.forall_mem_map] at hall
    rw [List.map_map] at hpairs
    change (List.map id _).Pairwise Path.Apart at hpairs
    rw [List.map_id] at hpairs
    exact ⟨hall, hpairs⟩

/-- Such a build returns, and its pages are known. -/
theorem Completes.exists_run {write : Bool} (hs : settings.strict = false) (hd : paths.Nodup)
    (w : Workspace) (h : Completes settings write w.tree w.session.registry paths) :
    ∃ result, (w.perform (run settings (some paths) write)).1 = .ok result ∧
      result.pages = (Loaded.among w.tree settings.contentRoot paths).pages.map
        fun p => p.resolved settings.policy (registration settings
          (Loaded.among w.tree settings.contentRoot paths) w.session.registry).registry := by
  let σ : Scheduler settings.policy settings.workers := .sequential _ _
  refine ⟨_, ((builds σ w paths write).ok_iff hs hd _).mpr ⟨h, rfl⟩, ?_⟩
  simp only [summary, resolution, List.map_map]
  rfl

theorem sample_completes {n : Nat} (hw : 0 < n) :
    Completes (Sample.settings.withWorkers n) true Sample.tree .empty Sample.paths := by
  refine .of_checks rfl hw ?_ ?_ ?_
  · change ∀ file ∈ Sample.paths,
      (Page.loaded? Sample.tree Sample.settings.contentRoot file).isSome = true ∨
        (Page.failed? Sample.tree Sample.settings.contentRoot file).isSome = true
    decide +kernel
  · change ∀ p ∈ (Loaded.among Sample.tree Sample.settings.contentRoot Sample.paths).pages,
      (Registered.ofPage Sample.settings.policy p.metadata p.sourceFile .empty).outcome = .ok ()
    decide +kernel
  · change (Sample.tree.plantAll ((targets Sample.settings
      (Loaded.among Sample.tree Sample.settings.contentRoot Sample.paths).pages).map
        (·, []))).2 = .ok ()
    decide +kernel

end Build

end Crosslink
