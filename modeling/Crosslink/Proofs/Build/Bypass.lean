import Crosslink.Build.Basic
import Crosslink.Proofs.Build.Copying
import Crosslink.Proofs.Build.Discovery
import Crosslink.Proofs.FileTree.Without

/-!
# Builds beside a hidden file

A build whose paths do not have a certain hidden name in them neither reads nor writes a file with
that name. It gives the same in the tree without the file, as long as the search for content files
does not end at the length of the file's path.
-/

namespace Crosslink

open FileTree

variable {α β : Type} {place : List String} {name : String}

/-! ## What is found and loaded -/

section Found

variable {tree : FileTree} {names : List String}

theorem any_namesBelow_without {p : List String → Bool}
    (h : ∀ below, place = names ++ below → p below = false) :
    ((tree.without place).namesBelow names).any p = (tree.namesBelow names).any p := by
  rw [namesBelow, namesBelow, without, List.filterMap_filter, List.any_filterMap,
    List.any_filterMap]
  congr 1
  funext e
  by_cases he : e.1 = place
  · cases hbelow : below? names place with
    | none => simp [he, hbelow]
    | some below => simp [he, hbelow, h below (below?_eq_some.mp hbelow).1]
  · simp [he]

theorem filter_filesBelow_without {p : List String × List UInt8 → Bool}
    (h : ∀ below bytes, place = names ++ below → p (below, bytes) = false) :
    ((tree.without place).filesBelow names).filter p = (tree.filesBelow names).filter p := by
  rw [filesBelow, filesBelow, without, List.filterMap_filter, List.filter_filterMap,
    List.filter_filterMap]
  congr 1
  funext e
  obtain ⟨there, - | bytes⟩ := e
  · simp
  · by_cases he : there = place
    · cases hbelow : below? names place with
      | none => simp [he, hbelow]
      | some below => simp [he, hbelow, Option.filter, h below bytes (below?_eq_some.mp hbelow).1]
    · simp [he]

variable {root : Path} (hname : name ∈ place) (hup : name ≠ "..")

include hname hup

/-- Hidden files are not content files, and what they are called does not matter unless it is too
long. -/
theorem discover_without (hhidden : isHidden name = true) (hroot : name ∉ root.segments)
    (hshort : ∀ below, place = root.goal ++ below → isTooLong (root.join ⟨.relative, below⟩) = false)
    (extensions : List String) :
    discover (tree.without place) root extensions = discover tree root extensions := by
  simp only [discover, look_without hname hup hroot, locate_without hname hup hroot]
  cases tree.look root with
  | error f => rfl
  | ok entry =>
    simp only [Except.mapError, bind, Except.bind]
    split
    · rename_i there hthere
      obtain rfl : there = root.goal := goal_of_walk (locate_eq_ok.mp hthere).2.2
      have hgoal : name ∉ root.goal := not_mem_locate hup hroot hthere
      have hcontent : ∀ below (bytes : List UInt8), place = root.goal ++ below →
          isContentFile extensions below = false := by
        rintro below - rfl
        have hmem : name ∈ below := by simpa [hgoal] using hname
        rw [isContentFile, Bool.and_eq_false_iff, Bool.not_eq_false', List.any_eq_true]
        exact .inr ⟨name, hmem, hhidden⟩
      rw [any_namesBelow_without hshort, filter_filesBelow_without hcontent]
    · rfl

omit hname hup in
/-- Content files are not hidden. -/
theorem not_mem_discover {extensions : List String} {files : List Path}
    (hhidden : isHidden name = true) (hroot : name ∉ root.segments)
    (h : discover tree root extensions = .ok files) {file : Path} (hfile : file ∈ files) :
    name ∉ file.segments := by
  obtain ⟨there, rfl⟩ := exists_of_discover h
  obtain ⟨⟨names, bytes⟩, -, hcontent, rfl⟩ := mem_contentBelow.mp hfile
  rw [Path.join_of_relative rfl]
  simp only [List.mem_append, hroot, false_or]
  intro hmem
  obtain ⟨-, hvisible⟩ := isContentFile_iff.mp hcontent
  simp [isHidden, hvisible name hmem] at hhidden

theorem load_without {file : Path} (hfile : name ∉ file.segments) :
    Page.load (tree.without place) root file = Page.load tree root file := by
  rw [Page.load, Page.load, read_without hname hup hfile]

theorem ofFiles_without {files : List Path} (hfiles : ∀ file ∈ files, name ∉ file.segments) :
    Loaded.ofFiles (tree.without place) root files = Loaded.ofFiles tree root files := by
  rw [Loaded.ofFiles, Loaded.ofFiles]
  congr 1
  exact List.map_congr_left fun file hfile => by rw [load_without hname hup (hfiles file hfile)]

end Found

/-- Seen from a root, a location has no other names than before. -/
theorem not_mem_relative {root file below : Path} (h : Location.relative root file = .ok below)
    (hfile : name ∉ file.segments) : name ∉ below.segments := by
  have hbelow : ∀ base found : Path, base.below? file = some found → name ∉ found.segments := by
    intro base found h
    rw [Path.below?] at h
    split at h
    · cases h
      exact fun hmem => hfile (List.drop_subset _ _ hmem)
    · cases h
  rw [Location.relative] at h
  split at h
  · split at h
    · cases h
      exact hbelow _ _ ‹_›
    · cases h
  · obtain rfl := Except.ok.inj h
    cases hb : root.below? file with
    | none => exact hfile
    | some found => exact hbelow root found hb

theorem not_mem_relativePath {tree : FileTree} {root : Path} {files : List Path} {loaded : Loaded}
    (h : Loaded.ofFiles tree root files = .ok loaded)
    (hfiles : ∀ file ∈ files, name ∉ file.segments) {page : Page} (hpage : page ∈ loaded.pages) :
    name ∉ page.relativePath.segments := by
  obtain ⟨-, rfl⟩ := Loaded.ofFiles_ok_iff.mp h
  obtain ⟨file, hfile, hloaded⟩ := List.mem_filterMap.mp hpage
  obtain ⟨_, _, _, _, _, hrelative⟩ := Page.exists_of_load (Page.loaded?_eq_some_iff.mp hloaded)
  exact not_mem_relative hrelative (hfiles file hfile)

/-- The workspace without what stands in a place. -/
def Workspace.without (w : Workspace) (place : List String) : Workspace :=
  ⟨w.tree.without place, w.session⟩

namespace Build

/-- A job does the same without what stands in a place, and leaves it there. -/
def Bypasses (place : List String) (job : Job α) : Prop :=
  ∀ w : Workspace,
    (w.without place).perform job = ((w.perform job).1, (w.perform job).2.without place) ∧
      (w.perform job).2.tree.find? place = w.tree.find? place

theorem bypasses_pure (a : α) : Bypasses place (pure a : Job α) := fun _ => ⟨rfl, rfl⟩

theorem bypasses_throw (f : Failure) : Bypasses place (throw f : Job α) := fun _ => ⟨rfl, rfl⟩

theorem bypasses_require (x : Except Failure α) : Bypasses place (require x) := by
  cases x with
  | error f => exact bypasses_throw f
  | ok a => exact bypasses_pure a

/-- Actions on the session do not see the tree. -/
theorem bypasses_onSession (action : Action α) : Bypasses place (onSession action) :=
  fun _ => ⟨rfl, rfl⟩

/-- A sequence does the same if its first part does and all that may follow it. -/
theorem Bypasses.bind {x : Job α} {f : α → Job β} (hx : Bypasses place x)
    (hf : ∀ (w : Workspace) a, (w.perform x).1 = .ok a → Bypasses place (f a)) :
    Bypasses place (x >>= f) := by
  intro w
  obtain ⟨hsame, hkept⟩ := hx w
  rw [Workspace.perform_bind, Workspace.perform_bind, hsame]
  rcases hw : w.perform x with ⟨e | a, v⟩ <;> rw [hw] at hkept
  · exact ⟨rfl, hkept⟩
  · obtain ⟨hnext, hstill⟩ := hf w a (by rw [hw]) v
    exact ⟨hnext, hstill.trans hkept⟩

theorem Bypasses.next {x : Job α} {f : α → Job β} (hx : Bypasses place x)
    (hf : ∀ a, Bypasses place (f a)) : Bypasses place (x >>= f) :=
  hx.bind fun _ a _ => hf a

/-- What follows a look at the workspace must not depend on the place. -/
theorem bypasses_get {f : Workspace → Job β} (hsame : ∀ w : Workspace, f (w.without place) = f w)
    (hf : ∀ w, Bypasses place (f w)) : Bypasses place (get >>= f) := by
  intro w
  have hget (v : Workspace) : v.perform (get >>= f) = v.perform (f v) := rfl
  rw [hget, hget, hsame]
  exact hf w w

theorem bypasses_forM {job : α → Job Unit} (h : ∀ a, Bypasses place (job a)) (as : List α) :
    Bypasses place (as.forM job) := by
  induction as with
  | nil => exact bypasses_pure _
  | cons a rest ih => exact (h a).next fun _ => ih

theorem bypasses_mapM {job : α → Job β} {as : List α} (h : ∀ a ∈ as, Bypasses place (job a)) :
    Bypasses place (as.mapM job) := by
  induction as with
  | nil => exact bypasses_pure _
  | cons a rest ih =>
    rw [List.mapM_cons]
    obtain ⟨ha, hrest⟩ := List.forall_mem_cons.mp h
    exact ha.next fun _ => (ih hrest).next fun _ => bypasses_pure _

/-- Resolving links leaves the places of pages alone. -/
theorem relativePath_of_resolveAll {policy : Policy} {pages : List Page} {s : Session}
    {resolved : List (Page × PageReport)}
    (h : (s.perform (resolveAll policy pages)).1 = .ok resolved) :
    resolved.map (·.1.relativePath) = pages.map (·.relativePath) := by
  induction pages generalizing s resolved with
  | nil =>
    cases h
    rfl
  | cons page rest ih =>
    rw [resolveAll, Session.perform_bind] at h
    rcases hpage : s.perform (Session.resolvePage policy page.sourceFile page.links) with
      ⟨e | ⟨links, report⟩, t⟩ <;> simp only [hpage] at h
    · cases h
    rw [Session.perform_bind] at h
    rcases hrest : t.perform (resolveAll policy rest) with ⟨e | others, u⟩ <;>
      simp only [hrest] at h
    · cases h
    · cases h
      simp [ih (congrArg Prod.fst hrest)]

section Phases

variable {settings : Settings} (hname : name ∈ place) (hup : name ≠ "..")

theorem bypasses_skip (file : Path) (e : Error) : Bypasses place (skip settings file e) := by
  rw [skip]
  split
  · exact (bypasses_throw _).next fun _ => bypasses_onSession _
  · exact bypasses_onSession _

include hname hup

theorem bypasses_files (hhidden : isHidden name = true) (hroot : name ∉ settings.contentRoot.segments)
    (hshort : ∀ below, place = settings.contentRoot.goal ++ below →
      isTooLong (settings.contentRoot.join ⟨.relative, below⟩) = false) :
    Bypasses place (files settings) :=
  bypasses_get
    (fun _ => congrArg require (discover_without hname hup hhidden hroot hshort settings.extensions))
    fun _ => bypasses_require _

omit hname hup in
theorem bypasses_skips (loaded : Loaded) : Bypasses place (do
    loaded.failed.forM fun (file, e) => skip settings file e
    return loaded) := by
  refine (bypasses_forM ?_ _).next fun _ => bypasses_pure _
  rintro ⟨file, e⟩
  exact bypasses_skip file e

theorem bypasses_loads {paths : List Path} (hpaths : ∀ file ∈ paths, name ∉ file.segments) :
    Bypasses place (do
      let loaded ← require
        ((Loaded.ofFiles (← get).tree settings.contentRoot paths).mapError .fault)
      loaded.failed.forM fun (file, e) => skip settings file e
      return loaded) := by
  refine bypasses_get (fun w => ?_) fun _ => (bypasses_require _).next bypasses_skips
  have htree : (w.without place).tree = w.tree.without place := rfl
  rw [htree, ofFiles_without hname hup hpaths]

theorem bypasses_load {paths : List Path} (hpaths : ∀ file ∈ paths, name ∉ file.segments) :
    Bypasses place (load settings paths) := by
  rw [load]
  split
  · exact (bypasses_throw _).next fun _ => bypasses_loads hname hup hpaths
  · exact bypasses_loads hname hup hpaths

theorem bypasses_writePage {directory : Path} {page : Page} (hdirectory : name ∉ directory.segments)
    (hpage : name ∉ page.relativePath.segments) : Bypasses place (writePage directory page) := by
  have htarget : name ∉ (directory.join page.relativePath).segments := by
    rw [Path.join]
    split
    · exact hpage
    · simp [hdirectory, hpage]
  have hwrite (w : Workspace) : w.perform (writePage directory page) =
      (((w.tree.plant (directory.join page.relativePath) (Text.Utf8.encode page.render)).2.mapError
          fun f => .fault (.files f)).map fun _ => directory.join page.relativePath,
        { w with tree :=
          (w.tree.plant (directory.join page.relativePath) (Text.Utf8.encode page.render)).1 }) := by
    have hplant : w.perform (writePage directory page) = Workspace.perform
        { w with tree :=
          (w.tree.plant (directory.join page.relativePath) (Text.Utf8.encode page.render)).1 } (do
        require ((w.tree.plant (directory.join page.relativePath)
          (Text.Utf8.encode page.render)).2.mapError fun f => .fault (.files f))
        return directory.join page.relativePath) := rfl
    rw [hplant]
    rcases w.tree.plant (directory.join page.relativePath) (Text.Utf8.encode page.render) with
      ⟨tree, f | _⟩ <;> rfl
  intro w
  have hplant := bypasses_plant hname hup htarget (Text.Utf8.encode page.render) w.tree
  have htree : (w.without place).tree = w.tree.without place := rfl
  simp only at hplant
  rw [hwrite, hwrite, htree, hplant.1]
  exact ⟨rfl, hplant.2⟩

theorem bypasses_publish {write : Bool} {loaded : Loaded} {resolved : List (Page × PageReport)}
    (hout : name ∉ settings.outputDir.segments)
    (hpages : ∀ r ∈ resolved, name ∉ r.1.relativePath.segments) :
    Bypasses place (publish settings write loaded resolved) := by
  have hpage : ∀ page ∈ resolved.map (·.1), Bypasses place (writePage settings.outputDir page) := by
    intro page hpage
    obtain ⟨r, hr, rfl⟩ := List.mem_map.mp hpage
    exact bypasses_writePage hname hup hout (hpages r hr)
  have hend (written : List Path) : Bypasses place (do
      let result : BuildResult := {
        pages := resolved.map (·.1)
        reports := resolved.map (·.2)
        failed := loaded.failed
        written
        issues := (← get).session.issues.issues }
      onSession (Session.say .info ("Rewrote " ++ toString result.rewritten ++ " link(s), "
        ++ toString result.issues.length ++ " issue(s)"))
      return result) :=
    bypasses_get (fun _ => rfl) fun _ => (bypasses_onSession _).next fun _ => bypasses_pure _
  cases write with
  | true =>
    exact (bypasses_mapM hpage).next fun written => (bypasses_onSession _).next fun _ => hend written
  | false => exact (bypasses_pure _).next fun written => hend written

omit hname hup in
theorem not_mem_files (hhidden : isHidden name = true) (hroot : name ∉ settings.contentRoot.segments)
    {w : Workspace} {paths : List Path} (h : (w.perform (files settings)).1 = .ok paths) :
    ∀ file ∈ paths, name ∉ file.segments := by
  have hfound : (w.perform (files settings)).1 =
      discover w.tree settings.contentRoot settings.extensions := by
    have hfiles : w.perform (files settings) =
        w.perform (require (discover w.tree settings.contentRoot settings.extensions)) := rfl
    rw [hfiles]
    cases discover w.tree settings.contentRoot settings.extensions <;> rfl
  exact fun file hfile => not_mem_discover hhidden hroot (hfound.symm.trans h) hfile

omit hname hup in
theorem ofFiles_of_load {w : Workspace} {paths : List Path} {loaded : Loaded}
    (h : (w.perform (load settings paths)).1 = .ok loaded) :
    Loaded.ofFiles w.tree settings.contentRoot paths = .ok loaded := by
  obtain ⟨log, hload⟩ := gives_load settings w paths
  rw [hload] at h
  obtain ⟨-, hloads, rfl, -⟩ := loads_ok_iff.mp h
  exact Loaded.ofFiles_ok_iff.mpr ⟨hloads, rfl⟩

theorem bypasses_resolved (hout : name ∉ settings.outputDir.segments) (write : Bool)
    {paths : List Path} (hpaths : ∀ file ∈ paths, name ∉ file.segments) :
    Bypasses place (do
      let (loaded, resolved) ← prepare (resolveAll settings.policy) settings paths
      publish settings write loaded resolved) := by
  simp only [prepare, bind_assoc, pure_bind]
  refine (bypasses_onSession _).next fun _ => (bypasses_onSession _).next fun _ => ?_
  refine (bypasses_load hname hup hpaths).bind fun w loaded hload => ?_
  refine (bypasses_onSession _).next fun _ => ?_
  refine (bypasses_onSession _).bind fun v resolved hresolve => ?_
  refine bypasses_publish hname hup hout fun r hr => ?_
  have hplaces : resolved.map (·.1.relativePath) = loaded.pages.map (·.relativePath) :=
    relativePath_of_resolveAll (s := v.session) hresolve
  have hmem : r.1.relativePath ∈ resolved.map (·.1.relativePath) := List.mem_map.mpr ⟨r, hr, rfl⟩
  rw [hplaces] at hmem
  obtain ⟨page, hpage, hsame⟩ := List.mem_map.mp hmem
  exact hsame ▸ not_mem_relativePath (ofFiles_of_load hload) hpaths hpage

/-- A build of all content files does not see a hidden file that its settings do not lead to. -/
theorem bypasses_run (hhidden : isHidden name = true) (hroot : name ∉ settings.contentRoot.segments)
    (hshort : ∀ below, place = settings.contentRoot.goal ++ below →
      isTooLong (settings.contentRoot.join ⟨.relative, below⟩) = false)
    (hout : name ∉ settings.outputDir.segments) (write : Bool) :
    Bypasses place (run settings none write) :=
  (bypasses_files hname hup hhidden hroot hshort).bind fun _ _ hpaths =>
    bypasses_resolved hname hup hout write (not_mem_files hhidden hroot hpaths)

theorem bypasses_registerOnly (hhidden : isHidden name = true)
    (hroot : name ∉ settings.contentRoot.segments)
    (hshort : ∀ below, place = settings.contentRoot.goal ++ below →
      isTooLong (settings.contentRoot.join ⟨.relative, below⟩) = false) :
    Bypasses place (registerOnly settings) :=
  (bypasses_files hname hup hhidden hroot hshort).bind fun _ _ hpaths =>
    (bypasses_load hname hup (not_mem_files hhidden hroot hpaths)).next fun _ =>
      (bypasses_onSession _).next fun _ => bypasses_pure _

end Phases

end Build

end Crosslink
