import Crosslink.Proofs.Build.Copying

/-!
# What a build mirrors

A build of all content files writes one file for each page that it loads: in the order in which
the files are found, at the names that the source has below the root, so no file is written twice
and none outside the output directory, and with the text of the page that was loaded from there.
-/

namespace Crosslink.Build

variable {settings : Settings} {tree built : FileTree} {files : List Path} {result : BuildResult}

/-- The result of a build from some files, and what is then under the output directory. -/
structure Mirrored (settings : Settings) (tree : FileTree) (files : List Path)
    (result : BuildResult) (built : FileTree) : Prop where
  /-- The pages are those of the files that can be loaded, in their order. -/
  sources : result.pages.map (·.sourceFile) =
    files.filter fun file => (Page.loaded? tree settings.contentRoot file).isSome
  written : result.written = result.pages.map (target settings)
  distinct : result.written.Nodup
  /-- A page lies at the same names below the output directory as its file below the root. -/
  located : ∀ p ∈ result.pages, p.sourceFile = settings.contentRoot.join p.relativePath ∧
    p.relativePath.isAbsolute = false ∧ ".." ∉ p.relativePath.segments
  /-- The file of a page holds the text of the page, which has only its links changed. -/
  holds : ∀ p ∈ result.pages, ∃ page,
    Page.load tree settings.contentRoot p.sourceFile = .ok page ∧
      p = { page with links := p.links } ∧
        built.read (target settings p) = .ok (Text.Utf8.encode p.render)

/-- The files of the result are the targets of its pages. -/
theorem written_of_builds {r r' : Registry} {paths : List Path} {issues : IssueLog}
    (h : Builds settings true tree r paths (.ok result) built r' issues) :
    result.written = result.pages.map (target settings) := by
  obtain ⟨loaded, resolved, files, -, hwritten, rfl⟩ := h.of_ok
  rw [written, if_pos rfl] at hwritten
  simp only at hwritten
  split at hwritten
  · obtain rfl := Except.ok.inj hwritten
    simp [summary, plantings]
  · cases hwritten

theorem written_of_run (σ : Scheduler settings.policy settings.workers) (w : Workspace)
    {paths : Option (List Path)}
    (h : (w.perform (runWith σ.resolve settings paths true)).1 = .ok result) :
    result.written = result.pages.map (target settings) := by
  have hbuilds (files : List Path) := builds σ w files true
  cases paths with
  | some files => exact written_of_builds (h ▸ hbuilds files)
  | none =>
    rw [perform_runWith_none] at h
    split at h
    · exact written_of_builds (h ▸ hbuilds _)
    · cases h

section

variable {r : Registry}
  (hfound : discover tree settings.contentRoot settings.extensions = .ok files)
include hfound

/-- A page of a content file lies at the names of its file below the root. -/
theorem located_of_load {file : Path} (hfile : file ∈ files) {p : Page}
    (hload : Page.load tree settings.contentRoot file = .ok p) :
    file = settings.contentRoot.join p.relativePath ∧ p.relativePath.isAbsolute = false ∧
      ".." ∉ p.relativePath.segments := by
  obtain ⟨names, rfl, hup⟩ := exists_names_of_mem_discover hfound hfile
  rw [relativePath_of_join hload]
  exact ⟨rfl, rfl, hup⟩

/-- The file of each page is there after a build of all content files. -/
theorem Finished.holds_target (h : Finished settings tree r files true result built) {file : Path}
    (hfile : file ∈ files) {p : Page}
    (hload : Page.load tree settings.contentRoot file = .ok p) :
    built.Holds (target settings p) (Text.Utf8.encode (p.resolved settings.policy
      (registered settings tree r files)).render) := by
  obtain ⟨before, after, rfl⟩ := List.append_of_mem hfile
  refine h.holds hload fun other hother q hq hgoal => ?_
  exact eq_of_goal_eq hfound (by simp [hother]) hfile hq hload hgoal

/-- A build of all content files that has finished mirrors them. -/
theorem Finished.mirrored (h : Finished settings tree r files true result built)
    (hdistinct : files.Nodup) (hwritten : result.written = result.pages.map (target settings)) :
    Mirrored settings tree files result built := by
  have hpages : ∀ p ∈ result.pages, ∃ page, p.sourceFile ∈ files ∧
      Page.load tree settings.contentRoot p.sourceFile = .ok page ∧
        p = page.resolved settings.policy (registered settings tree r files) := by
    intro p hp
    rw [h.pages] at hp
    obtain ⟨page, hpage, rfl⟩ := List.mem_map.mp hp
    exact ⟨page, (Loaded.mem_of_mem_pages_among hpage).1, Loaded.of_mem_among.1 page hpage, rfl⟩
  have hsources : result.pages.map (·.sourceFile) =
      files.filter fun file => (Page.loaded? tree settings.contentRoot file).isSome := by
    rw [h.pages, List.map_map, ← Loaded.sourceFile_pages_among]
    rfl
  refine ⟨hsources, hwritten, ?_, fun p hp => ?_, fun p hp => ?_⟩
  · have hfiles : (result.pages.map (·.sourceFile)).Nodup := hsources ▸ hdistinct.filter _
    rw [hwritten, List.Nodup, List.pairwise_map]
    refine (List.pairwise_map.mp hfiles).imp_of_mem fun {p q} hp hq hne htarget => hne ?_
    obtain ⟨page, hfile, hload, hresolved⟩ := hpages p hp
    obtain ⟨other, hfile', hload', hresolved'⟩ := hpages q hq
    refine eq_of_goal_eq hfound hfile hfile' hload hload' ?_
    rw [hresolved, hresolved'] at htarget
    exact congrArg Path.goal htarget
  · obtain ⟨page, hfile, hload, hresolved⟩ := hpages p hp
    have hlocated := located_of_load hfound hfile hload
    rw [hresolved] at hlocated ⊢
    exact hlocated
  · obtain ⟨page, hfile, hload, hresolved⟩ := hpages p hp
    have hheld := (h.holds_target hfound hfile hload).read
    refine ⟨page, hload, by rw [hresolved]; rfl, ?_⟩
    rw [hresolved]
    exact hheld

end

/-- Content files are listed in strictly increasing order, so each of them once. -/
theorem nodup_of_pairwise (h : files.Pairwise fun p q => q.le p = false) : files.Nodup :=
  h.imp fun {p q} hle he => by
    subst he
    have hrefl := Path.le_total p p
    simp [hle] at hrefl

/-- A build of all content files, whether they are given or found, mirrors them. -/
theorem mirrored_of_run (σ : Scheduler settings.policy settings.workers) (w : Workspace)
    (hfound : discover w.tree settings.contentRoot settings.extensions = .ok files)
    (hdistinct : files.Nodup) {paths : Option (List Path)}
    (hpaths : paths = none ∨ paths = some files)
    (hrun : (w.perform (runWith σ.resolve settings paths true)).1 = .ok result) :
    Mirrored settings w.tree files result
      (w.perform (runWith σ.resolve settings paths true)).2.tree := by
  obtain ⟨found, hsources, hfinished⟩ := finished σ w hrun
  have hfiles : sources settings w.tree paths = .ok files := by
    rcases hpaths with rfl | rfl
    · exact hfound
    · rfl
  obtain rfl := Except.ok.inj (hsources.symm.trans hfiles)
  exact hfinished.mirrored hfound hdistinct (written_of_run σ w hrun)

namespace Sample

/-- A site with a page in a directory, a page with a suffix in capital letters, and a draft. -/
def site : FileTree := ⟨[
  (["content"], .directory),
  (["content", "_drafts"], .directory),
  (["content", "_drafts", "c.md"], .file (Text.Utf8.encode "c".toList)),
  (["content", "a"], .directory),
  (["content", "a", "b.md"], .file (Text.Utf8.encode "[b](/b)".toList)),
  (["content", "b.MD"], .file (Text.Utf8.encode "b".toList))]⟩

/-- The files of its pages. -/
def siteFiles : List Path :=
  [⟨.relative, ["content", "a", "b.md"]⟩, ⟨.relative, ["content", "b.MD"]⟩]

end Sample

end Crosslink.Build
