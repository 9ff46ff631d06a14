import Crosslink.Proofs.Build.Completion

/-!
# Confluence of builds

A permissive build on a fresh session, from distinct paths, comes to the same for every order of
the paths, every number of workers and every order of their steps. Pages are registered in the
order of their paths as text, so the registry and the issues of registration are the same; what
becomes of a page is settled by them alone; and whether all pages can be written does not depend
on which is written first. Only the lists of the result follow the order of the paths.
-/

namespace Crosslink

/-- Two results that are alike but for the order of their lists. -/
structure BuildResult.Rearranges (a b : BuildResult) : Prop where
  issues : a.issues = b.issues
  /-- Each page, with its links and its text as they become, has the same report. -/
  reported : (a.pages.zip a.reports).Perm (b.pages.zip b.reports)
  texts : (a.pages.map fun p => (p.sourceFile, p.render)).Perm
    (b.pages.map fun p => (p.sourceFile, p.render))
  failed : a.failed.Perm b.failed
  written : a.written.Perm b.written

/-- The lists of a result follow the order of the paths it was built from. -/
structure BuildResult.Follows (settings : Settings) (write : Bool) (tree : FileTree)
    (paths : List Path) (result : BuildResult) : Prop where
  pages : result.pages.map (·.sourceFile) =
    paths.filter fun file => (Page.loaded? tree settings.contentRoot file).isSome
  reports : result.reports.map (·.sourceFile) = result.pages.map (·.sourceFile)
  failed : result.failed.map (·.1) =
    paths.filter fun file => (Page.failed? tree settings.contentRoot file).isSome
  written : result.written =
    if write then result.pages.map fun p => settings.outputDir.join p.relativePath else []

namespace Build

variable {settings : Settings} {tree : FileTree} {r : Registry} {paths paths' : List Path}

/-- Pages with normal paths of their own have one order of registration. -/
theorem registrationOrder_congr {pages pages' : List Page} (h : pages.Perm pages')
    (hn : ∀ p ∈ pages, p.sourceFile.IsNormal)
    (hinj : ∀ p ∈ pages, ∀ q ∈ pages, p.sourceFile = q.sourceFile → p = q) :
    registrationOrder pages = registrationOrder pages' := by
  refine List.Perm.eq_of_pairwise ?_ (pairwise_registrationOrder pages)
    (pairwise_registrationOrder pages')
    ((List.mergeSort_perm pages _).trans (h.trans (List.mergeSort_perm pages' _).symm))
  intro p q hp hq hpq hqp
  have hp' : p ∈ pages := (List.mergeSort_perm pages _).mem_iff.mp hp
  have hq' : q ∈ pages := h.mem_iff.mpr ((List.mergeSort_perm pages' _).mem_iff.mp hq)
  exact hinj p hp' q hq' (Path.textLe_antisymm (hn p hp') (hn q hq') hpq hqp)

/-- Loaded pages of the same files, in any order, register the same. -/
theorem registration_perm (hp : paths.Perm paths') (hn : ∀ p ∈ paths, p.IsNormal) (root : Path) :
    registration settings (Loaded.among tree root paths) r =
      registration settings (Loaded.among tree root paths') r := by
  have hpages : (Loaded.among tree root paths).pages.Perm (Loaded.among tree root paths').pages :=
    hp.filterMap _
  have horder := registrationOrder_congr hpages
    (fun p hp => hn _ (Loaded.mem_of_mem_pages_among hp).1)
    fun p hp q hq => Loaded.eq_of_sourceFile_eq hp hq
  rw [registration, registration, Registered.all, Registered.all, horder]

/-- Whether a build comes to its end does not depend on the order of the paths. -/
theorem Completes.perm (hp : paths.Perm paths') (hn : ∀ p ∈ paths, p.IsNormal) {write : Bool}
    {n : Nat} (hw : 0 < n) (h : Completes settings write tree r paths) :
    Completes (settings.withWorkers n) write tree r paths' := by
  have htargets : (targets settings (Loaded.among tree settings.contentRoot paths).pages).Perm
      (targets settings (Loaded.among tree settings.contentRoot paths').pages) :=
    (hp.filterMap _).map _
  refine ⟨hw, fun file hf => h.loads file (hp.mem_iff.mpr hf), ?_, fun hwrite => ?_⟩
  · have hregister := h.registers
    rwa [registration_perm hp hn] at hregister
  · obtain ⟨hall, hpairs⟩ := h.writes hwrite
    exact ⟨fun file hf => hall file (htargets.mem_iff.mpr hf),
      (htargets.pairwise_iff fun h => h.symm).mp hpairs⟩

/-- The lists of a result follow the order of the paths. -/
theorem Builds.follows (hs : settings.strict = false) (hd : paths.Nodup) {write : Bool}
    {result : BuildResult} {t : FileTree} {r' : Registry} {issues : IssueLog}
    (h : Builds settings write tree r paths (.ok result) t r' issues) :
    result.Follows settings write tree paths := by
  obtain ⟨-, rfl⟩ := (h.ok_iff hs hd result).mp rfl
  refine ⟨?_, ?_, Loaded.file_failed_among _ _ _, ?_⟩
  · rw [← Loaded.sourceFile_pages_among]
    simp only [summary, resolution, List.map_map]
    rfl
  · simp only [summary, resolution, List.map_map]
    rfl
  · cases write with
    | false => rfl
    | true =>
      simp only [summary, resolution, targets, List.map_map, if_true]
      rfl

/-- Logs of completed builds of the same files list the same. -/
theorem Prepared.issues_perm (hp : paths.Perm paths') (hd : paths.Nodup)
    (hn : ∀ p ∈ paths, p.IsNormal) {n : Nat} {r₁ r₂ : Registry} {is js : IssueLog}
    {resolved resolved' : List (Page × PageReport)}
    (h : Prepared settings tree r paths (Loaded.among tree settings.contentRoot paths) resolved
      r₁ is)
    (h' : Prepared (settings.withWorkers n) tree r paths'
      (Loaded.among tree settings.contentRoot paths') resolved' r₂ js) :
    is.issues = js.issues := by
  have hpages : (Loaded.among tree settings.contentRoot paths).pages.Perm
      (Loaded.among tree settings.contentRoot paths').pages := hp.filterMap _
  refine IssueLog.issues_congr (fun file hf => hn file (h.mem_paths hf)) fun file => ?_
  rw [h.issues, h'.issues, ← registration_perm hp hn, List.filter_append, List.filter_append]
  congr 1
  by_cases hfile : ∃ p ∈ (Loaded.among tree settings.contentRoot paths).pages, p.sourceFile = file
  · obtain ⟨p, hmem, rfl⟩ := hfile
    have hd' : paths'.Nodup := hp.nodup_iff.mp hd
    exact (Pool.filter_issues_of_distinct (Loaded.nodup_pages_among hd) hmem).trans
      (Pool.filter_issues_of_distinct (Loaded.nodup_pages_among hd')
        (hpages.mem_iff.mp hmem)).symm
  · have hother : ∀ p ∈ (Loaded.among tree settings.contentRoot paths).pages,
        p.sourceFile ≠ file := fun p hp e => hfile ⟨p, hp, e⟩
    exact (Pool.filter_issues_of_other hother).trans
      (Pool.filter_issues_of_other fun p hp => hother p (hpages.mem_iff.mpr hp)).symm

/-- Of two builds from the same paths in different orders, one comes to its end if the other does,
and both then leave the same registry and results that are alike. -/
theorem Builds.confluent (hs : settings.strict = false) (hp : paths.Perm paths') (hd : paths.Nodup)
    (hn : ∀ p ∈ paths, p.IsNormal) {n : Nat} (hw : 0 < n) {write : Bool} {result : BuildResult}
    {outcome : Except Failure BuildResult} {t t' : FileTree} {r₁ r₂ : Registry} {is js : IssueLog}
    (h : Builds settings write tree r paths (.ok result) t r₁ is)
    (h' : Builds (settings.withWorkers n) write tree r paths' outcome t' r₂ js) :
    ∃ result', outcome = .ok result' ∧ r₁ = r₂ ∧ result.Rearranges result' := by
  have hd' : paths'.Nodup := hp.nodup_iff.mp hd
  have hs' : (settings.withWorkers n).strict = false := hs
  obtain ⟨hcomplete, rfl⟩ := (h.ok_iff hs hd result).mp rfl
  obtain rfl := (h'.ok_iff hs' hd' _).mpr ⟨hcomplete.perm hp hn hw, rfl⟩
  obtain ⟨resolved, hprepared⟩ := h.prepared hd
  obtain ⟨resolved', hprepared'⟩ := h'.prepared hd'
  have hpages : (Loaded.among tree settings.contentRoot paths).pages.Perm
      (Loaded.among tree settings.contentRoot paths').pages := hp.filterMap _
  have hregistration : registration settings (Loaded.among tree settings.contentRoot paths) r =
      registration settings (Loaded.among tree settings.contentRoot paths') r :=
    registration_perm hp hn _
  have hresolved : (resolution settings (registration settings
      (Loaded.among tree settings.contentRoot paths) r)
        (Loaded.among tree settings.contentRoot paths).pages).Perm
      (resolution settings (registration settings
        (Loaded.among tree settings.contentRoot paths') r)
        (Loaded.among tree settings.contentRoot paths').pages) := by
    rw [← hregistration]
    exact hpages.map _
  refine ⟨_, rfl, ?_, hprepared.issues_perm hp hd hn hprepared', ?_, ?_, hp.filterMap _, ?_⟩
  · rw [hprepared.registry, hprepared'.registry]
    exact congrArg Registered.registry hregistration
  · simp only [summary, List.zip_map']
    exact hresolved.map _
  · simp only [summary, List.map_map]
    exact hresolved.map _
  · simp only [summary]
    cases write with
    | false => exact .nil
    | true => exact hpages.map _

/-- If a permissive build on a fresh session comes to its end for one order of distinct paths, one
number of workers and one order of their steps, then it does for all of them, with the same
registry and the same result; only the lists of the result follow the order of the paths. -/
theorem run_confluent (settings : Settings) (hs : settings.strict = false) (tree : FileTree)
    (hp : paths.Perm paths') (hd : paths.Nodup) (hn : ∀ p ∈ paths, p.IsNormal) (write : Bool)
    {n n' : Nat} (hw : 0 < n') (σ : Scheduler settings.policy n)
    (σ' : Scheduler settings.policy n') {result : BuildResult}
    (h : (runFresh settings σ tree paths write).1 = .ok result) :
    ∃ result', (runFresh settings σ' tree paths' write).1 = .ok result' ∧
      (runFresh settings σ tree paths write).2.session.registry =
        (runFresh settings σ' tree paths' write).2.session.registry ∧
      result.Rearranges result' ∧ result.Follows settings write tree paths ∧
      result'.Follows settings write tree paths' := by
  have hbuild := builds_runFresh settings σ tree paths write
  have hbuild' := builds_runFresh settings σ' tree paths' write
  have hd' : paths'.Nodup := hp.nodup_iff.mp hd
  have hs₁ : (settings.withWorkers n).strict = false := hs
  have hs₂ : (settings.withWorkers n').strict = false := hs
  rw [h] at hbuild
  obtain ⟨result', houtcome, hregistry, hsame⟩ := hbuild.confluent hs₁ hp hd hn hw hbuild'
  rw [houtcome] at hbuild'
  have hfollows := hbuild.follows hs₁ hd
  have hfollows' := hbuild'.follows hs₂ hd'
  exact ⟨result', houtcome, hregistry, hsame,
    ⟨hfollows.pages, hfollows.reports, hfollows.failed, hfollows.written⟩,
    ⟨hfollows'.pages, hfollows'.reports, hfollows'.failed, hfollows'.written⟩⟩

theorem run_confluent_sample : ∃ result,
    (runFresh Sample.settings (.sequential _ 1) Sample.tree Sample.paths true).1 = .ok result ∧
      ∃ result', (runFresh Sample.settings (.sequential _ 3) Sample.tree Sample.paths.reverse
        true).1 = .ok result' ∧ result.Rearranges result' := by
  have hd : Sample.paths.Nodup := by decide
  obtain ⟨result, h⟩ : ∃ result,
      (runFresh Sample.settings (.sequential _ 1) Sample.tree Sample.paths true).1 = .ok result :=
    ⟨_, ((builds_runFresh _ _ _ _ _).ok_iff rfl hd _).mpr
      ⟨sample_completes Nat.one_pos, rfl⟩⟩
  have hn : ∀ p ∈ Sample.paths, p.IsNormal := by decide
  have hw : 0 < 3 := by decide
  obtain ⟨result', h', -, hsame, -⟩ := run_confluent Sample.settings rfl Sample.tree
    (List.reverse_perm Sample.paths).symm hd hn true hw (.sequential _ 1) (.sequential _ 3) h
  exact ⟨result, h, result', h', hsame⟩

end Build

end Crosslink
