import Crosslink.Proofs.Build.Completion
import Crosslink.Proofs.Build.Discovery
import Crosslink.Proofs.Build.Finished
import Crosslink.Proofs.Build.Settled
import Crosslink.Proofs.FileTree.Reading
import Crosslink.Proofs.Text.LineBreak
import Crosslink.Proofs.Text.Utf8

/-!
# Pages that a build copies

A page whose links are all plain is written as it was read, with its line breaks unified and
nothing else changed, so its bytes are those of its file unless the file has a carriage return.
Content files all have places of their own among the written files; where files are given, another
one may be written to the same place later on.
-/

namespace Crosslink

/-- What a page that was loaded was made of. -/
theorem Page.exists_of_load {tree : FileTree} {root file : Path} {p : Page}
    (h : load tree root file = .ok p) : ∃ bytes text, tree.read file = .ok bytes ∧
      Text.Utf8.decode bytes = .ok text ∧ p.text = Text.unifyBreaks text ∧
      Location.relative root file = .ok p.relativePath := by
  obtain ⟨bytes, hread, text, hdecode, below, hbelow, h⟩ := load_eq_ok_iff.mp h
  obtain ⟨metadata, -, rfl⟩ := ofText_eq_ok_iff.mp h
  exact ⟨bytes, text, hread, hdecode, rfl, hbelow⟩

namespace Build

variable {settings : Settings} {tree tree' : FileTree} {r : Registry}

/-- The file to which a page is written. -/
abbrev target (settings : Settings) (p : Page) : Path := settings.outputDir.join p.relativePath

/-- Content files are seen from the root as the names at which they lie below it. -/
theorem relativePath_of_join {names : List String} {p : Page}
    (h : Page.load tree settings.contentRoot (settings.contentRoot.join ⟨.relative, names⟩) =
      .ok p) : p.relativePath = ⟨.relative, names⟩ := by
  obtain ⟨-, -, -, -, -, hbelow⟩ := Page.exists_of_load h
  rw [Location.relative] at hbelow
  have hjoin := Path.below?_join (p := settings.contentRoot) (q := ⟨.relative, names⟩) rfl
  split at hbelow
  · rename_i habsolute
    have hroot : settings.contentRoot.fromRoot = settings.contentRoot := by
      rw [Path.join_of_relative rfl] at habsolute
      have habsolute : settings.contentRoot.isAbsolute = true := habsolute
      rw [Path.fromRoot, if_pos habsolute]
    rw [hroot, hjoin] at hbelow
    exact (Except.ok.inj hbelow).symm
  · rw [hjoin] at hbelow
    exact (Except.ok.inj hbelow).symm

/-- Pages of different content files are written to different places. -/
theorem eq_of_goal_eq {files : List Path}
    (hfound : discover tree settings.contentRoot settings.extensions = .ok files)
    {file other : Path} (hfile : file ∈ files) (hother : other ∈ files) {p q : Page}
    (hp : Page.load tree settings.contentRoot file = .ok p)
    (hq : Page.load tree settings.contentRoot other = .ok q)
    (h : (target settings p).goal = (target settings q).goal) : file = other := by
  obtain ⟨names, rfl, hnames⟩ := exists_names_of_mem_discover hfound hfile
  obtain ⟨names', rfl, hnames'⟩ := exists_names_of_mem_discover hfound hother
  rw [target, target, relativePath_of_join hp, relativePath_of_join hq, Path.join_of_relative rfl,
    Path.join_of_relative rfl, Path.goal, Path.goal, FileTree.goal_append hnames,
    FileTree.goal_append hnames'] at h
  rw [List.append_cancel_left h]

/-- A loaded page without tokens is rendered as it was read. -/
theorem render_resolved_of_plain {file : Path} {p : Page}
    (hload : Page.load tree settings.contentRoot file = .ok p)
    (hplain : ∀ l ∈ p.links, l.isToken = false) (policy : Policy) (r : Registry) :
    (p.resolved policy r).render = p.text := by
  have hsame : p.resolved policy r = p :=
    congrArg Prod.fst (Page.outcome_of_plain hplain policy r [])
  rw [hsame, Page.render_of_unchanged]
  intro l hl
  rw [(Page.of_load hload).2] at hl
  rw [Link.of_mem_find hl, Link.changed_ofOrigin]

/-- The file of each page is there after a build, unless a later page is written to its place. -/
theorem Finished.holds {before after : List Path} {file : Path} {result : BuildResult}
    (h : Finished settings tree r (before ++ file :: after) true result tree') {p : Page}
    (hload : Page.load tree settings.contentRoot file = .ok p)
    (hlater : ∀ other ∈ after, ∀ q, Page.load tree settings.contentRoot other = .ok q →
      (target settings q).goal = (target settings p).goal → other = file) :
    tree'.Holds (target settings p) (Text.Utf8.encode (p.resolved settings.policy
      (registered settings tree r (before ++ file :: after))).render) := by
  have hplanted := h.planted rfl
  have hpage : Page.loaded? tree settings.contentRoot file = some p := by
    rw [Page.loaded?, hload]
  rw [h.pages, plantings, loadedPages, Loaded.among, List.filterMap_append,
    List.filterMap_cons_some hpage, List.map_append, List.map_append, List.map_cons,
    List.map_cons] at hplanted
  refine FileTree.holds_plantAll hplanted fun planted hmem hgoal => ?_
  obtain ⟨q', hq', rfl⟩ := List.mem_map.mp hmem
  obtain ⟨q, hq, rfl⟩ := List.mem_map.mp hq'
  obtain ⟨other, hother, hloaded⟩ := List.mem_filterMap.mp hq
  have hq := Page.loaded?_eq_some_iff.mp hloaded
  obtain rfl := hlater other hother q hq hgoal
  rw [Except.ok.inj (hq.symm.trans hload)]

/-- The file of a page without tokens holds the text as it was read. -/
theorem Finished.read_plain {before after : List Path} {file : Path} {result : BuildResult}
    (h : Finished settings tree r (before ++ file :: after) true result tree') {p : Page}
    (hload : Page.load tree settings.contentRoot file = .ok p)
    (hplain : ∀ l ∈ p.links, l.isToken = false)
    (hlater : ∀ other ∈ after, ∀ q, Page.load tree settings.contentRoot other = .ok q →
      (target settings q).goal = (target settings p).goal → other = file) :
    ∃ bytes text, tree.read file = .ok bytes ∧ Text.Utf8.decode bytes = .ok text ∧
      tree'.read (target settings p) = .ok (Text.Utf8.encode (Text.unifyBreaks text)) := by
  obtain ⟨bytes, text, hread, hdecode, htext, -⟩ := Page.exists_of_load hload
  have hcopy := (h.holds hload hlater).read
  rw [render_resolved_of_plain hload hplain, htext] at hcopy
  exact ⟨bytes, text, hread, hdecode, hcopy⟩

/-- A file whose links are all plain is written with unified line breaks and otherwise unchanged,
so it is copied byte for byte exactly if it has no carriage return. This holds of every build that
comes to its end, strict or not and whatever steps its workers make. Of files that are given, a
later one with the same place takes the place of the copy; content files that are found all have
places of their own. -/
theorem read_target_of_plain (σ : Scheduler settings.policy settings.workers) (w : Workspace)
    {paths : Option (List Path)} {result : BuildResult}
    (h : (w.perform (runWith σ.resolve settings paths true)).1 = .ok result)
    {before after : List Path} {file : Path}
    (hfiles : sources settings w.tree paths = .ok (before ++ file :: after)) {p : Page}
    (hload : Page.load w.tree settings.contentRoot file = .ok p)
    (hplain : ∀ l ∈ p.links, l.isToken = false)
    (hlater : paths ≠ none → ∀ other ∈ after, ∀ q,
      Page.load w.tree settings.contentRoot other = .ok q →
        (target settings q).goal = (target settings p).goal → other = file) :
    let built := (w.perform (runWith σ.resolve settings paths true)).2.tree
    ∃ bytes text, w.tree.read file = .ok bytes ∧ Text.Utf8.decode bytes = .ok text ∧
      built.read (target settings p) = .ok (Text.Utf8.encode (Text.unifyBreaks text)) ∧
      (built.read (target settings p) = .ok bytes ↔ 13 ∉ bytes) := by
  intro built
  obtain ⟨files, hsources, hfinished⟩ := finished σ w h
  obtain rfl := Except.ok.inj (hfiles.symm.trans hsources)
  have hplaces : ∀ other ∈ after, ∀ q, Page.load w.tree settings.contentRoot other = .ok q →
      (target settings q).goal = (target settings p).goal → other = file := by
    cases paths with
    | some given => exact hlater (by simp)
    | none =>
      intro other hother q hq hgoal
      exact eq_of_goal_eq hfiles (by simp [hother]) (by simp) hq hload hgoal
  obtain ⟨bytes, text, hread, hdecode, hcopy⟩ := hfinished.read_plain hload hplain hplaces
  refine ⟨bytes, text, hread, hdecode, hcopy, ?_⟩
  have hbytes : Text.Utf8.encode text = bytes := Text.Utf8.encode_of_decode hdecode
  have hreturn (cs : List Char) : 13 ∈ Text.Utf8.encode cs ↔ '\r' ∈ cs :=
    Text.Utf8.mem_encode (by decide) cs
  rw [hcopy]
  constructor
  · intro hsame
    rw [← Except.ok.inj hsame, hreturn]
    exact Text.not_mem_unifyBreaks text
  · intro hnone
    rw [← hbytes, hreturn] at hnone
    rw [Text.unifyBreaks_of_not_mem hnone, hbytes]

namespace Sample

/-- A site of one page. -/
def single (text : String) : FileTree := ⟨[
  (["content"], .directory),
  (["content", "a.md"], .file (Text.Utf8.encode text.toList))]⟩

/-- The file of the page. -/
def file : Path := ⟨.relative, ["content", "a.md"]⟩

/-- The file to which the page is written. -/
def copy : Path := ⟨.relative, ["out", "a.md"]⟩

/-- The page can be loaded, and has no tokens. -/
theorem exists_plain (page : Option Page)
    (h : (page.any fun p => target Sample.settings p == copy && p.links.all (!·.isToken)) = true) :
    ∃ p, page = some p ∧ target Sample.settings p = copy ∧ ∀ l ∈ p.links, l.isToken = false := by
  rcases page with _ | p
  · cases h
  · simp only [Option.any_some, Bool.and_eq_true, beq_iff_eq, List.all_eq_true,
      Bool.not_eq_true'] at h
    exact ⟨p, rfl, h⟩

end Sample

/-- A byte-order mark and a missing line break at the end are copied. -/
theorem read_target_of_plain_sample :
    (Workspace.perform ⟨Sample.single "\uFEFF[a](/b)", .empty⟩
        (run Sample.settings (some [Sample.file]) true)).2.tree.read Sample.copy =
      .ok (Text.Utf8.encode "\uFEFF[a](/b)".toList) := by
  have hcompletes : Completes Sample.settings true (Sample.single "\uFEFF[a](/b)") .empty
      [Sample.file] := by
    refine .of_checks rfl Nat.two_pos ?_ ?_ ?_ <;> decide +kernel
  obtain ⟨result, h, -⟩ := Completes.exists_run rfl (List.nodup_singleton _)
    ⟨Sample.single "\uFEFF[a](/b)", .empty⟩ hcompletes
  obtain ⟨p, hp, htarget, hplain⟩ := Sample.exists_plain (Page.loaded?
    (Sample.single "\uFEFF[a](/b)") Sample.settings.contentRoot Sample.file) (by decide +kernel)
  obtain ⟨bytes, text, hread, -, -, hsame⟩ := read_target_of_plain (.sequential _ _)
    ⟨Sample.single "\uFEFF[a](/b)", .empty⟩ h
    (show sources _ _ _ = .ok ([] ++ Sample.file :: []) from rfl) (Page.loaded?_eq_some_iff.mp hp)
    hplain (by simp)
  have hread' : (Sample.single "\uFEFF[a](/b)").read Sample.file =
      .ok (Text.Utf8.encode "\uFEFF[a](/b)".toList) := by decide +kernel
  obtain rfl := Except.ok.inj (hread.symm.trans hread')
  rw [htarget] at hsame
  exact hsame.mpr (by decide +kernel)

/-- A carriage return is lost: the page is written, but not as it was. -/
theorem run_loses_return : ∃ result,
    (Workspace.perform ⟨Sample.single "a\r\n", .empty⟩
        (run Sample.settings (some [Sample.file]) true)).1 = .ok result ∧
      (∀ p ∈ result.pages, ∀ l ∈ Link.find p.text p.bodyOffset, l.isToken = false) ∧
      (Sample.single "a\r\n").read Sample.file = .ok [97, 13, 10] ∧
      (Workspace.perform ⟨Sample.single "a\r\n", .empty⟩
          (run Sample.settings (some [Sample.file]) true)).2.tree.read Sample.copy =
        .ok [97, 10] := by
  have hcompletes : Completes Sample.settings true (Sample.single "a\r\n") .empty
      [Sample.file] := by
    refine .of_checks rfl Nat.two_pos ?_ ?_ ?_ <;> decide +kernel
  obtain ⟨result, h, hpages⟩ := Completes.exists_run rfl (List.nodup_singleton _)
    ⟨Sample.single "a\r\n", .empty⟩ hcompletes
  obtain ⟨p, hp, htarget, hplain⟩ := Sample.exists_plain (Page.loaded?
    (Sample.single "a\r\n") Sample.settings.contentRoot Sample.file) (by decide +kernel)
  obtain ⟨files, hfiles, hfinished⟩ := finished (.sequential _ _)
    ⟨Sample.single "a\r\n", .empty⟩ h
  have hfiles : [] ++ Sample.file :: [] = files := Except.ok.inj hfiles
  subst hfiles
  obtain ⟨bytes, text, hread, hdecode, hcopy⟩ :=
    hfinished.read_plain (Page.loaded?_eq_some_iff.mp hp) hplain (by simp)
  have hread' : (Sample.single "a\r\n").read Sample.file = .ok [97, 13, 10] := by
    decide +kernel
  have hdecode' : Text.Utf8.decode [97, 13, 10] = .ok ['a', '\r', '\n'] := by decide +kernel
  obtain rfl := Except.ok.inj (hread.symm.trans hread')
  obtain rfl := Except.ok.inj (hdecode.symm.trans hdecode')
  rw [htarget] at hcopy
  refine ⟨result, h, ?_, hread, hcopy.trans (by decide +kernel)⟩
  rw [hpages]
  decide +kernel

end Build

end Crosslink
