import Crosslink.Proofs.Build.Plan
import Crosslink.Proofs.Page.FrontMatter

/-!
# What loading passes over

Which files end a build while they are loaded, and what becomes of all others. Files that cannot
be read or decoded, or whose block between dashes is malformed, are passed over by a permissive
build. Files whose front matter has a fault of another kind end every build.
-/

namespace Crosslink

namespace Page

variable {tree : FileTree} {root file : Path}

/-- The faults of a file, which no build passes over. -/
inductive Faulty (tree : FileTree) (root file : Path) : Fault → Prop
  /-- No file can have the name. -/
  | unnameable (hread : tree.read file = .error .unnameable) :
      Faulty tree root file (.files .unnameable)
  | frontMatter {bytes : List UInt8} {cs : List Char} {below : Path} {f : Fault}
      (hread : tree.read file = .ok bytes) (hdecode : Text.Utf8.decode bytes = .ok cs)
      (hbelow : Location.relative root file = .ok below)
      (hfault : FrontMatter.Faulty file (Text.unifyBreaks cs) f) : Faulty tree root file f

theorem ofText_eq_error_iff {below : Path} {text : List Char} {x : Failure} :
    ofText file below text = .error x ↔ FrontMatter.metadata file text = .error x := by
  rw [ofText, bind_eq_error_iff, or_iff_left]
  rintro ⟨_, _, ⟨⟩⟩

/-- How loading a file can fail: the file cannot be read, decoded or placed, or its front matter
fails. -/
theorem load_eq_error_iff {x : Failure} : load tree root file = .error x ↔
    (∃ t, tree.read file = .error t ∧
      x = if t = .unnameable then .fault (.files t) else .error (.unreadable file t)) ∨
    ∃ bytes, tree.read file = .ok bytes ∧
      ((∃ u, Text.Utf8.decode bytes = .error u ∧ x = .error (.undecodable file u)) ∨
      ∃ cs, Text.Utf8.decode bytes = .ok cs ∧
        ((∃ e, Location.relative root file = .error e ∧ x = .error e) ∨
        ∃ below, Location.relative root file = .ok below ∧
          FrontMatter.metadata file (Text.unifyBreaks cs) = .error x)) := by
  simp only [load, bind_eq_error_iff, mapError_eq_error_iff, mapError_eq_ok_iff,
    ofText_eq_error_iff]

/-- The faults of loading are those of the file. -/
theorem load_fault_iff {f : Fault} :
    load tree root file = .error (.fault f) ↔ Faulty tree root file f := by
  rw [load_eq_error_iff]
  constructor
  · rintro (⟨t, hread, hf⟩ | ⟨bytes, hread, ⟨u, -, hf⟩ | ⟨cs, hdecode, ⟨e, -, hf⟩ |
      ⟨below, hbelow, hf⟩⟩⟩)
    · split at hf
      · rename_i ht
        cases hf
        exact ht ▸ .unnameable (ht ▸ hread)
      · cases hf
    · cases hf
    · cases hf
    · exact .frontMatter hread hdecode hbelow (FrontMatter.metadata_fault_iff.mp hf)
  · rintro (hread | ⟨hread, hdecode, hbelow, hfault⟩)
    · exact .inl ⟨_, hread, rfl⟩
    · exact .inr ⟨_, hread, .inr ⟨_, hdecode, .inr ⟨_, hbelow,
        FrontMatter.metadata_fault_iff.mpr hfault⟩⟩⟩

/-- The errors of loading are errors of content and name the file. -/
theorem of_load_error {e : Error} (h : load tree root file = .error (.error e)) :
    e.category = .content ∧ e.context = { sourceFile := some file.toString } := by
  rcases load_eq_error_iff.mp h with ⟨t, -, he⟩ | ⟨bytes, -, ⟨u, -, he⟩ | ⟨cs, -, ⟨e', hbelow, he⟩ |
    ⟨below, -, he⟩⟩⟩
  · split at he
    · cases he
    · cases he
      exact ⟨rfl, rfl⟩
  · cases he
    exact ⟨rfl, rfl⟩
  · cases he
    rw [Location.of_relative_error hbelow]
    exact ⟨rfl, rfl⟩
  · rw [(FrontMatter.metadata_error_iff.mp he).1]
    exact ⟨rfl, rfl⟩

end Page

/-- A file loads exactly if it has no fault. -/
theorem Page.loads_iff_not_faulty {tree : FileTree} {root file : Path} :
    Loads tree root file ↔ ∀ f, ¬ Faulty tree root file f :=
  forall_congr' fun _ => not_congr load_fault_iff

/-- A file without faults has an error exactly if it is no page. -/
theorem Page.isSome_failed? {tree : FileTree} {root file : Path} (h : Loads tree root file) :
    (failed? tree root file).isSome = !(loaded? tree root file).isSome := by
  rw [failed?, loaded?]
  rcases hload : load tree root file with (e | f) | page
  · rfl
  · exact absurd hload (h f)
  · rfl

namespace Loaded

variable {tree : FileTree} {root : Path}

/-- Loading ends with the first fault. -/
theorem ofFiles_eq_error {before after : List Path} {file : Path} {f : Fault}
    (hbefore : ∀ g ∈ before, Page.Loads tree root g)
    (hf : Page.load tree root file = .error (.fault f)) :
    ofFiles tree root (before ++ file :: after) = .error f := by
  rw [ofFiles]
  induction before with
  | nil => simp only [List.nil_append, List.map_cons, hf, collect]
  | cons g rest ih =>
    obtain ⟨hg, hrest⟩ := List.forall_mem_cons.mp hbefore
    rw [List.cons_append, List.map_cons]
    rcases hload : Page.load tree root g with (e | f') | page
    · rw [collect, ih hrest]
      rfl
    · exact absurd hload (hg f')
    · rw [collect, ih hrest]
      rfl

end Loaded

namespace Build

variable {settings : Settings}

/-- A permissive build loads files exactly if none of them has a fault; otherwise the first fault
ends it. Every file then occurs once, in the order of the list: its page is loaded, or it is passed
over with an error of content. -/
theorem load_permissive (hs : settings.strict = false) (hw : 0 < settings.workers)
    (w : Workspace) (paths : List Path) :
    let outcome := (w.perform (load settings paths)).1
    let gives := fun file => (Page.loaded? w.tree settings.contentRoot file).isSome
    ((∃ loaded, outcome = .ok loaded) ↔
      ∀ file ∈ paths, ∀ f, ¬ Page.Faulty w.tree settings.contentRoot file f) ∧
    (∀ loaded, outcome = .ok loaded →
      loaded.pages.map (·.sourceFile) = paths.filter gives ∧
      loaded.failed.map (·.1) = paths.filter (fun file => !gives file) ∧
      (∀ p ∈ loaded.pages, Page.load w.tree settings.contentRoot p.sourceFile = .ok p) ∧
      ∀ x ∈ loaded.failed, Page.load w.tree settings.contentRoot x.1 = .error (.error x.2) ∧
        x.2.category = .content) ∧
    ∀ before file after f, paths = before ++ file :: after →
      (∀ g ∈ before, ∀ f, ¬ Page.Faulty w.tree settings.contentRoot g f) →
      Page.Faulty w.tree settings.contentRoot file f → outcome = .error (.fault f) := by
  intro outcome gives
  obtain ⟨log, hload⟩ := gives_load settings w paths
  have houtcome : outcome = loads settings w.tree paths := congrArg Prod.fst hload
  have hok : ∀ loaded, outcome = .ok loaded ↔
      (∀ file ∈ paths, Page.Loads w.tree settings.contentRoot file) ∧
        loaded = Loaded.among w.tree settings.contentRoot paths := by
    intro loaded
    rw [houtcome, loads_ok_iff]
    simp [hw, hs]
  refine ⟨?_, fun loaded h => ?_, fun before file after f hpaths hbefore hf => ?_⟩
  · simp only [hok, ← Page.loads_iff_not_faulty, exists_and_left, exists_eq, and_true]
  · obtain ⟨hloads, rfl⟩ := (hok loaded).mp h
    refine ⟨Loaded.sourceFile_pages_among _ _ _, ?_, Loaded.of_mem_among.1, fun x hx => ?_⟩
    · rw [Loaded.file_failed_among]
      exact List.filter_congr fun file hfile => Page.isSome_failed? (hloads file hfile)
    · have hx := Loaded.of_mem_among.2 x hx
      exact ⟨hx, (Page.of_load_error hx).1⟩
  · have hstop : Loaded.ofFiles w.tree settings.contentRoot paths = .error f :=
      hpaths ▸ Loaded.ofFiles_eq_error (fun g hg => Page.loads_iff_not_faulty.mpr (hbefore g hg))
        (Page.load_fault_iff.mpr hf)
    rw [houtcome, loads, if_neg hw.ne', hstop]

theorem load_permissive_sample : ∃ loaded,
    (Workspace.perform ⟨Sample.tree, .empty⟩ (load Sample.settings Sample.paths)).1 = .ok loaded ∧
      loaded.pages.map (·.sourceFile) =
        [⟨.relative, ["content", "b.md"]⟩, ⟨.relative, ["content", "a.md"]⟩] ∧
      loaded.failed.map (·.1) = [⟨.relative, ["content", "c.md"]⟩] := by
  have hs : Sample.settings.strict = false := rfl
  have hw : 0 < Sample.settings.workers := Nat.two_pos
  have hloads : ∀ file ∈ Sample.paths,
      (Page.loaded? Sample.tree Sample.settings.contentRoot file).isSome = true ∨
        (Page.failed? Sample.tree Sample.settings.contentRoot file).isSome = true := by
    decide +kernel
  obtain ⟨hreturns, hparts, -⟩ := load_permissive hs hw ⟨Sample.tree, .empty⟩ Sample.paths
  obtain ⟨loaded, hl⟩ := hreturns.mpr fun file hfile =>
    Page.loads_iff_not_faulty.mp (Page.loads_iff.mpr (hloads file hfile))
  obtain ⟨hpages, hfailed, -⟩ := hparts loaded hl
  exact ⟨loaded, hl, hpages.trans (by decide +kernel), hfailed.trans (by decide +kernel)⟩

namespace Sample

/-- Front matter with a date that does not exist. -/
def datedText : List Char := "---\ndate: 2024-02-30\n---\n".toList

/-- A page with such front matter. -/
def dated : FileTree := ⟨[
  (["content"], .directory),
  (["content", "a.md"], .file (Text.Utf8.encode datedText))]⟩

end Sample

/-- A date that does not exist ends even a permissive build. -/
theorem load_stops_at_date :
    (Workspace.perform ⟨Sample.dated, .empty⟩
      (load Sample.settings [⟨.relative, ["content", "a.md"]⟩])).1 =
        .error (.fault .impossibleValue) := by
  have hfault : ((Workspace.perform ⟨Sample.dated, .empty⟩
      (load Sample.settings [⟨.relative, ["content", "a.md"]⟩])).1.map fun _ => ()) =
        .error (.fault .impossibleValue) := by
    decide +kernel
  rcases h : (Workspace.perform ⟨Sample.dated, .empty⟩
      (load Sample.settings [⟨.relative, ["content", "a.md"]⟩])).1 with f | loaded <;>
    rw [h] at hfault
  · rw [Except.error.inj hfault]
  · cases hfault

end Build

end Crosslink
