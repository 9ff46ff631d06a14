import Crosslink.Proofs.Build.Incremental
import Crosslink.Proofs.Build.Strictness

/-!
# What a completed build leaves

Pages and files of a build that has come to its end, strict or not, from given files, which may
be named more than once, or from all content files. Each file that can be loaded gives a page,
the links of a page are as the registry of the build decides, and the pages are written one after
the other.
-/

namespace Crosslink.Build

variable {settings : Settings} {tree tree' : FileTree} {r : Registry} {write : Bool}
  {result : BuildResult}

/-- The files of a build: those that are given, or all content files. -/
def sources (settings : Settings) (tree : FileTree) :
    Option (List Path) → Except Failure (List Path)
  | some paths => .ok paths
  | none => discover tree settings.contentRoot settings.extensions

/-- The pages of some files. -/
abbrev loadedPages (settings : Settings) (tree : FileTree) (paths : List Path) : List Page :=
  (Loaded.among tree settings.contentRoot paths).pages

/-- The registry after the files are registered. -/
abbrev registered (settings : Settings) (tree : FileTree) (r : Registry) (paths : List Path) :
    Registry :=
  (registration settings (Loaded.among tree settings.contentRoot paths) r).registry

/-- What a build from some files has done when it comes to its end. -/
structure Finished (settings : Settings) (tree : FileTree) (r : Registry) (paths : List Path)
    (write : Bool) (result : BuildResult) (tree' : FileTree) : Prop where
  registers : (registration settings (Loaded.among tree settings.contentRoot paths) r).outcome =
    .ok ()
  pages : result.pages = (loadedPages settings tree paths).map
    fun p => p.resolved settings.policy (registered settings tree r paths)
  planted : write = true → tree.plantAll (plantings settings result.pages) = (tree', .ok ())

/-- Pages that are settled are the resolved ones, in their order. -/
theorem pages_of_settled {policy : Policy} {K : Telling} {pages : List Page}
    {resolved : List (Page × PageReport)}
    (h : List.Forall₂ (Task.Settled policy r K) pages resolved) :
    resolved.map (·.1) = pages.map (·.resolved policy r) := by
  induction h with
  | nil => rfl
  | cons hx _ ih => rw [List.map_cons, List.map_cons, ih, hx.page]

/-- Writing that goes through has planted all files. -/
theorem plantAll_of_written {pages : List Page} {files : List Path}
    (h : (written settings true tree pages).2 = .ok files) :
    tree.plantAll (plantings settings pages) = ((written settings true tree pages).1, .ok ()) := by
  rw [written, if_pos rfl] at h ⊢
  rcases hplant : tree.plantAll (plantings settings pages) with ⟨made, f | _⟩
  · rw [hplant] at h
    cases h
  · rfl

theorem Builds.finished {paths : List Path} {r' : Registry} {issues : IssueLog}
    (h : Builds settings write tree r paths (.ok result) tree' r' issues) :
    Finished settings tree r paths write result tree' := by
  generalize houtcome : (Except.ok result : Except Failure BuildResult) = outcome at h
  cases h with
  | stopped _ => cases houtcome
  | @published loaded resolved _ _ hprepare =>
    obtain ⟨files, hwritten, rfl⟩ := map_summary_eq_ok.mp houtcome.symm
    obtain ⟨-, htraversed⟩ := hprepare.traversed
    obtain ⟨-, -, rfl, -⟩ := loads_ok_iff.mp htraversed.loads
    refine ⟨htraversed.registers, pages_of_settled htraversed.completed.settled, ?_⟩
    rintro rfl
    exact plantAll_of_written hwritten

/-- A build that comes to its end has finished with its files. -/
theorem finished (σ : Scheduler settings.policy settings.workers) (w : Workspace)
    {paths : Option (List Path)}
    (h : (w.perform (runWith σ.resolve settings paths write)).1 = .ok result) :
    ∃ files, sources settings w.tree paths = .ok files ∧
      Finished settings w.tree w.session.registry files write result
        (w.perform (runWith σ.resolve settings paths write)).2.tree := by
  have hbuilds (files : List Path) := builds σ w files write
  cases paths with
  | some files => exact ⟨files, rfl, Builds.finished (h ▸ hbuilds files)⟩
  | none =>
    rw [perform_runWith_none] at h ⊢
    rw [sources]
    cases hfound : discover w.tree settings.contentRoot settings.extensions with
    | error f =>
      rw [hfound] at h
      cases h
    | ok files =>
      rw [hfound] at h
      exact ⟨files, rfl, Builds.finished (h ▸ hbuilds files)⟩

end Crosslink.Build
