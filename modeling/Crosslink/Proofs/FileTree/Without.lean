import Crosslink.Build.Discovery
import Crosslink.Build.Loading
import Crosslink.Log.Setup
import Crosslink.Proofs.FileTree.Sound

/-!
# A tree without one entry

What is done along paths that do not have a certain name in them neither sees nor changes an entry
with that name on its way: it does the same in the tree without the entry.
-/

namespace Crosslink

namespace FileTree

/-- The tree without what stands in a place. -/
def without (tree : FileTree) (place : List String) : FileTree :=
  ⟨tree.entries.filter fun e => e.1 != place⟩

/-- A change of the tree does the same without what stands in a place, and leaves it there. -/
def Bypasses {α : Type} (place : List String) (change : FileTree → FileTree × α) : Prop :=
  ∀ tree, change (tree.without place) = ((change tree).1.without place, (change tree).2) ∧
    (change tree).1.find? place = tree.find? place

variable {tree : FileTree} {place here names : List String} {name : String} {entry : Entry}

theorem find?_without_of_ne (h : names ≠ place) :
    (tree.without place).find? names = tree.find? names := by
  have hentries : ∀ entries : List (List String × Entry),
      (entries.filter fun e => e.1 != place).find? (fun e => e.1 == names) =
        entries.find? fun e => e.1 == names := by
    intro entries
    rw [List.find?_filter]
    congr 1
    funext e
    by_cases he : e.1 = names <;> simp [he, h]
  rw [find?, find?, without, hentries]

/-- Nothing stands there any more. -/
theorem find?_without_self (h : leadsUp place = false) : (tree.without place).find? place = none := by
  rw [find?_of_not_leadsUp h, Option.map_eq_none_iff, List.find?_eq_none]
  intro e he
  simpa [without] using (List.mem_filter.mp he).2

theorem store_without (h : names ≠ place) :
    (tree.without place).store names entry = (tree.store names entry).without place := by
  have hentries : ∀ entries : List (List String × Entry),
      putEntry names entry (entries.filter fun e => e.1 != place) =
        (putEntry names entry entries).filter fun e => e.1 != place := by
    intro entries
    induction entries with
    | nil => simp [putEntry, h]
    | cons e rest ih =>
      by_cases he : e.1 = place
      · have hne : e.1 ≠ names := fun heq => h (heq.symm.trans he)
        have hne' : place ≠ names := he ▸ hne
        simp [putEntry, he, hne', ih]
      · by_cases hn : e.1 = names
        · simp [putEntry, hn, h]
        · simp [putEntry, he, hn, ih]
  rw [store, store, without, hentries]
  rfl

/-- A change that stops where another one fails, or else goes on from what that one leaves. -/
theorem Bypasses.andThen {ε α : Type} {first : FileTree → FileTree × Except ε Unit}
    {next change : FileTree → FileTree × α} (hfirst : Bypasses place first)
    (hnext : Bypasses place next) (stop : ε → α)
    (hstop : ∀ tree made f, first tree = (made, .error f) → change tree = (made, stop f))
    (hgo : ∀ tree made, first tree = (made, .ok ()) → change tree = next made) :
    Bypasses place change := by
  intro tree
  obtain ⟨hsame, hkept⟩ := hfirst tree
  rcases hmade : first tree with ⟨made, f | _⟩ <;> rw [hmade] at hsame hkept
  · rw [hstop _ _ _ hsame, hstop _ _ _ hmade]
    exact ⟨rfl, hkept⟩
  · rw [hgo _ _ hsame, hgo _ _ hmade]
    exact ⟨(hnext made).1, (hnext made).2.trans hkept⟩

/-! ## Places that are not arrived at -/

theorem not_mem_above (hup : name ≠ "..") (h : name ∉ here) : name ∉ above here := by
  rw [above]
  split
  · simpa [hup] using h
  · exact fun hmem => h (List.dropLast_subset _ hmem)

theorem not_mem_goal (hup : name ≠ "..") (hhere : name ∉ here) (hnames : name ∉ names) :
    name ∉ goal here names := by
  induction names generalizing here with
  | nil => exact hhere
  | cons other rest ih =>
    obtain ⟨hother, hrest⟩ := not_or.mp (mt List.mem_cons.mpr hnames)
    rw [goal]
    split
    · exact ih (not_mem_above hup hhere) hrest
    · exact ih (by simp [hhere, hother]) hrest

theorem not_mem_locate {p : Path} {there : List String} (hup : name ≠ "..")
    (hp : name ∉ p.segments) (h : tree.locate p = .ok there) : name ∉ there := by
  rw [goal_of_walk (locate_eq_ok.mp h).2.2]
  exact not_mem_goal hup (by simp) hp

section Avoided

variable (hname : name ∈ place) (hup : name ≠ "..")

include hname

theorem ne_place (h : name ∉ names) : names ≠ place := by
  rintro rfl
  exact h hname

include hup

theorem leadsUp_place : leadsUp place = false := by
  rw [leadsUp, List.all_eq_false]
  exact ⟨name, hname, by simpa using hup⟩

theorem walk_without (hhere : name ∉ here) (hnames : name ∉ names) :
    (tree.without place).walk here names = tree.walk here names := by
  induction names generalizing here with
  | nil => rfl
  | cons other rest ih =>
    obtain ⟨hother, hrest⟩ := not_or.mp (mt List.mem_cons.mpr hnames)
    have hthere : name ∉ here ++ [other] := by simp [hhere, hother]
    simp only [walk, ih (not_mem_above hup hhere) hrest,
      find?_without_of_ne (ne_place hname hthere), ih hthere hrest]

theorem locate_without {p : Path} (hp : name ∉ p.segments) :
    (tree.without place).locate p = tree.locate p := by
  rw [locate, locate, walk_without hname hup (by simp) hp]

theorem look_without {p : Path} (hp : name ∉ p.segments) :
    (tree.without place).look p = tree.look p := by
  rw [look, look, locate_without hname hup hp]
  split
  · rename_i there hthere
    rw [find?_without_of_ne (ne_place hname (not_mem_locate hup hp hthere))]
  · rfl
  · rfl

theorem entry_without {p : Path} (hp : name ∉ p.segments) :
    FileTree.entry? (tree.without place) p = tree.entry? p := by
  rw [FileTree.entry?, FileTree.entry?, look_without hname hup hp]

theorem read_without {p : Path} (hp : name ∉ p.segments) :
    (tree.without place).read p = tree.read p := by
  rw [read, read, locate_without hname hup hp]
  cases h : tree.locate p with
  | error f => rfl
  | ok there =>
    simp only [bind, Except.bind]
    rw [find?_without_of_ne (ne_place hname (not_mem_locate hup hp h))]

theorem bypasses_write {p : Path} (hp : name ∉ p.segments) (bytes : List UInt8) :
    Bypasses place fun tree => (match tree.write p bytes with
      | .ok tree => (tree, .ok ())
      | .error f => (tree, .error f) : FileTree × Except TreeFault Unit) := by
  intro tree
  simp only [write, locate_without hname hup hp]
  cases h : tree.locate p with
  | error f => exact ⟨rfl, rfl⟩
  | ok there =>
    have hthere := ne_place hname (not_mem_locate hup hp h)
    simp only [bind, Except.bind, find?_without_of_ne hthere, store_without hthere]
    cases tree.find? there with
    | none => exact ⟨rfl, find?_store_of_ne hthere.symm _ _⟩
    | some entry =>
      cases entry with
      | directory => exact ⟨rfl, rfl⟩
      | file _ => exact ⟨rfl, find?_store_of_ne hthere.symm _ _⟩

theorem bypasses_makeFrom (hhere : name ∉ here) (hnames : name ∉ names) :
    Bypasses place fun tree => makeFrom here tree names := by
  intro tree
  induction names generalizing here tree with
  | nil => exact ⟨rfl, rfl⟩
  | cons other rest ih =>
    obtain ⟨hother, hrest⟩ := not_or.mp (mt List.mem_cons.mpr hnames)
    have hthere : name ∉ here ++ [other] := by simp [hhere, hother]
    have hne := ne_place hname hthere
    simp only [makeFrom, find?_without_of_ne hne, store_without hne]
    split
    · exact ih (not_mem_above hup hhere) hrest tree
    split
    · exact ⟨rfl, rfl⟩
    split
    · exact ih hthere hrest tree
    · exact ⟨rfl, rfl⟩
    · obtain ⟨hsame, hkept⟩ := ih hthere hrest (tree.store (here ++ [other]) .directory)
      exact ⟨hsame, hkept.trans (find?_store_of_ne hne.symm _ _)⟩

theorem bypasses_makeDirectory {p : Path} (hp : name ∉ p.segments) :
    Bypasses place fun tree => tree.makeDirectory p := by
  intro tree
  simp only [makeDirectory]
  split
  · exact ⟨rfl, rfl⟩
  split
  · exact ⟨rfl, rfl⟩
  · exact bypasses_makeFrom hname hup (by simp) hp tree

theorem bypasses_plant {p : Path} (hp : name ∉ p.segments) (bytes : List UInt8) :
    Bypasses place fun tree => tree.plant p bytes := by
  have hparent : name ∉ p.parent.segments := fun hmem => hp (List.dropLast_subset _ hmem)
  refine (bypasses_makeDirectory hname hup hparent).andThen (bypasses_write hname hup hp bytes)
    .error (fun tree made f h => ?_) fun tree made h => ?_
  · simp only [plant, h]
  · cases hwritten : made.write p bytes <;> simp only [plant, h, hwritten]

/-- A file that is there is opened, and else made. -/
theorem bypasses_openIn {file : Path} (hfile : name ∉ file.segments) :
    Bypasses place fun tree => (match tree.entry? file with
      | some (.file _) => (tree, .ok ())
      | some .directory => (tree, .error .isDirectory)
      | none =>
        match tree.write file [] with
        | .ok tree => (tree, .ok ())
        | .error f => (tree, .error f) : FileTree × Except TreeFault Unit) := by
  intro tree
  simp only [entry_without hname hup hfile]
  rcases tree.entry? file with - | (- | bytes)
  · exact bypasses_write hname hup hfile [] tree
  · exact ⟨rfl, rfl⟩
  · exact ⟨rfl, rfl⟩

theorem bypasses_openFile {file : Path} (hfile : name ∉ file.segments) :
    Bypasses place fun tree => Log.openFile tree file := by
  have hparent : name ∉ file.parent.segments := fun hmem => hfile (List.dropLast_subset _ hmem)
  refine (bypasses_makeDirectory hname hup hparent).andThen (bypasses_openIn hname hup hfile) .error
    (fun tree made f h => ?_) fun tree made h => ?_
  · simp only [Log.openFile, h]
  · rcases hentry : made.entry? file with - | (- | bytes)
    · cases hwritten : made.write file [] <;> simp only [Log.openFile, h, hentry, hwritten]
    · simp only [Log.openFile, h, hentry]
    · simp only [Log.openFile, h, hentry]

end Avoided

end FileTree

end Crosslink
