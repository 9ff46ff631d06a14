import Crosslink.Proofs.Build.Phases
import Crosslink.Proofs.Session.Listing

/-!
# The plan of a build

The first three phases as a function, for paths that are distinct: every page then has a file
of its own, and what becomes of it is settled by the tree, the registry before and the list of
paths. Workers and the order of their steps do not enter, and what is left of them in the log
of issues does not show in the list of issues.
-/

namespace Crosslink.Build

/-- The first phase for loaded pages. -/
abbrev registration (settings : Settings) (loaded : Loaded) (r : Registry) : Registered :=
  Registered.all settings.policy loaded.pages r

/-- The issues of all links in the order of pages and links. -/
def linkIssues (settings : Settings) (r : Registry) (pages : List Page) : List Issue :=
  pages.flatMap fun p => p.issues settings.policy r

/-- What becomes of pages with the issues that registration has found. -/
def resolution (settings : Settings) (registered : Registered) (pages : List Page) :
    List (Page × PageReport) :=
  pages.map fun p => p.outcome settings.policy registered.registry
    (registered.issues.filter fun i => decide (i.sourceFile = p.sourceFile))

/-- What the first three phases come to where every page has a file of its own. -/
def plan (settings : Settings) (tree : FileTree) (r : Registry) (paths : List Path) :
    Except Failure (Loaded × List (Page × PageReport)) :=
  match loads settings tree paths with
  | .error f => .error f
  | .ok loaded =>
    match (registration settings loaded r).outcome with
    | .error f => .error f
    | .ok () =>
      (Session.verdict settings.strict
        (linkIssues settings (registration settings loaded r).registry loaded.pages)).map fun _ =>
          (loaded, resolution settings (registration settings loaded r) loaded.pages)

/-- What is known once the first three phases have gone through. -/
structure Prepared (settings : Settings) (tree : FileTree) (r : Registry) (paths : List Path)
    (loaded : Loaded) (resolved : List (Page × PageReport)) (r' : Registry)
    (issues : IssueLog) : Prop where
  loads : loads settings tree paths = .ok loaded
  registers : (registration settings loaded r).outcome = .ok ()
  registry : r' = (registration settings loaded r).registry
  resolved : resolved = resolution settings (registration settings loaded r) loaded.pages
  issues : ∀ file, issues.forFile file = ((registration settings loaded r).issues ++
    linkIssues settings (registration settings loaded r).registry loaded.pages).filter
      fun i => decide (i.sourceFile = file)

section

variable {settings : Settings} {tree : FileTree} {r r' : Registry} {paths : List Path}
  {issues : IssueLog}

/-- Loaded pages of distinct paths have files of their own. -/
theorem nodup_of_loads {loaded : Loaded} (hd : paths.Nodup)
    (h : loads settings tree paths = .ok loaded) : (loaded.pages.map (·.sourceFile)).Nodup := by
  obtain ⟨-, -, rfl, -⟩ := loads_ok_iff.mp h
  exact Loaded.nodup_pages_among hd

/-- Phases come to their plan if their last one gives the pages as they become, or the first issue
where that is strict. -/
theorem Prepares.eq_plan_of_resolves
    {outcome : Except Failure (Loaded × List (Page × PageReport))}
    (h : Prepares settings tree r paths outcome r' issues)
    (hlast : ∀ {loaded : Loaded} {s s' : Session} {x : Except Failure (List (Page × PageReport))},
      loads settings tree paths = .ok loaded →
      (registration settings loaded r).outcome = .ok () →
      s.registry = (registration settings loaded r).registry →
      s.issues = IssueLog.empty.addAll (registration settings loaded r).issues →
      Pool.Resolves settings.policy settings.workers loaded.pages s x s' →
      x = (Session.verdict settings.strict
        (linkIssues settings (registration settings loaded r).registry loaded.pages)).map
          fun _ => resolution settings (registration settings loaded r) loaded.pages) :
    outcome = plan settings tree r paths := by
  cases h with
  | unloaded hload => rw [plan, hload]
  | unregistered hload hregister =>
    rw [plan, hload]
    simp only [registration, hregister]
  | resolved hload hregister hregistry hissues hresolve =>
    rw [plan, hload, hlast hload hregister hregistry hissues hresolve]
    simp only [registration, hregister]
    cases Session.verdict settings.strict _ <;> rfl

/-- The phases come to their plan, whatever steps the workers make. -/
theorem Prepares.eq_plan (hd : paths.Nodup)
    {outcome : Except Failure (Loaded × List (Page × PageReport))}
    (h : Prepares settings tree r paths outcome r' issues) :
    outcome = plan settings tree r paths := by
  refine h.eq_plan_of_resolves fun hload hregister hregistry hissues hresolve => ?_
  have hf := hregistry ▸ Registered.frozen_all hregister
  have houtcome := hresolve.outcome_of_distinct hf (nodup_of_loads hd hload)
  simp only [hregistry, hissues, IssueLog.forFile_addAll, IssueLog.forFile_empty,
    List.nil_append] at houtcome
  exact houtcome

/-- A plan that goes through says what was loaded and what becomes of it. -/
theorem of_plan_ok {loaded : Loaded} {resolved : List (Page × PageReport)}
    (h : plan settings tree r paths = .ok (loaded, resolved)) :
    loads settings tree paths = .ok loaded ∧
      (registration settings loaded r).outcome = .ok () ∧
      resolved = resolution settings (registration settings loaded r) loaded.pages := by
  rw [plan] at h
  split at h
  · cases h
  · rename_i loaded' hload
    split at h
    · cases h
    · rename_i hregister
      cases hv : Session.verdict settings.strict (linkIssues settings
        (registration settings loaded' r).registry loaded'.pages) <;> rw [hv] at h <;> cases h
      exact ⟨hload, hregister, rfl⟩

/-- What phases leave that have gone through. -/
theorem Prepares.prepared (hd : paths.Nodup) {loaded : Loaded}
    {resolved : List (Page × PageReport)}
    (h : Prepares settings tree r paths (.ok (loaded, resolved)) r' issues) :
    Prepared settings tree r paths loaded resolved r' issues := by
  have hplan := h.eq_plan hd
  obtain ⟨hload, hregister, s, s', hregistry, hissues, hresolve, rfl, rfl⟩ := h.of_ok
  have hf : s.registry.frozen = true := hregistry ▸ Registered.frozen_all hregister
  have hforFile := hresolve.forFile_of_distinct hf (nodup_of_loads hd hload)
  refine ⟨hload, hregister, hresolve.registry.trans hregistry, (of_plan_ok hplan.symm).2.2,
    fun file => ?_⟩
  rw [hforFile, hissues, IssueLog.forFile_addAll, IssueLog.forFile_empty, List.nil_append,
    hregistry, List.filter_append, linkIssues]

/-- The plan of a permissive build goes through when files load and register. -/
theorem plan_ok_of_permissive (hs : settings.strict = false) {loaded : Loaded}
    (hload : loads settings tree paths = .ok loaded)
    (hregister : (registration settings loaded r).outcome = .ok ()) :
    plan settings tree r paths =
      .ok (loaded, resolution settings (registration settings loaded r) loaded.pages) := by
  rw [plan, hload]
  simp only [hregister, hs, Session.verdict_permissive]
  rfl

/-- Only loaded pages have issues. -/
theorem Prepared.mem_pages {loaded : Loaded} {resolved : List (Page × PageReport)}
    (h : Prepared settings tree r paths loaded resolved r' issues) {file : Path}
    (hfile : issues.forFile file ≠ []) : file ∈ loaded.pages.map (·.sourceFile) := by
  obtain ⟨i, hi⟩ := List.exists_mem_of_ne_nil _ hfile
  rw [h.issues] at hi
  obtain ⟨hi, hown⟩ := List.mem_filter.mp hi
  rw [List.mem_map, ← of_decide_eq_true hown]
  rcases List.mem_append.mp hi with hi | hi
  · obtain ⟨⟨p, hp, hsource⟩, -⟩ := Registered.of_mem_all hi
    exact ⟨p, hp, hsource.symm⟩
  · obtain ⟨p, hp, hi⟩ := List.mem_flatMap.mp hi
    exact ⟨p, hp, (Page.of_mem_issuesOf hi).1.symm⟩

theorem Prepared.mem_paths {loaded : Loaded} {resolved : List (Page × PageReport)}
    (h : Prepared settings tree r paths loaded resolved r' issues) {file : Path}
    (hfile : issues.forFile file ≠ []) : file ∈ paths := by
  obtain ⟨p, hp, rfl⟩ := List.mem_map.mp (h.mem_pages hfile)
  obtain ⟨-, -, rfl, -⟩ := loads_ok_iff.mp h.loads
  exact (Loaded.mem_of_mem_pages_among hp).1

end

namespace Sample

/-- The settings of a small site. -/
def settings : Settings where
  contentRoot := ⟨.relative, ["content"]⟩
  outputDir := ⟨.relative, ["out"]⟩
  repoBaseUrl := "https://example.org/repo"
  defaultBranch := "main"
  strict := false
  missingIdentifier := .error
  repoLinkRequiresPath := true
  extensions := [".md"]
  workers := 2
  logFile := none
  mode := .development
  configFile := none

/-- Two pages without identifiers; one of them links to an identifier that nobody declares. -/
def tree : FileTree := ⟨[
  (["content"], .directory),
  (["content", "a.md"], .file (Text.Utf8.encode "[b](ref:b)".toList)),
  (["content", "b.md"], .file (Text.Utf8.encode "[b](repo:b)".toList))]⟩

/-- The pages, and a file that is missing. -/
def paths : List Path :=
  [⟨.relative, ["content", "b.md"]⟩, ⟨.relative, ["content", "c.md"]⟩,
    ⟨.relative, ["content", "a.md"]⟩]

end Sample

end Crosslink.Build
