import Crosslink.Proofs.FileTree.Without
import Crosslink.Proofs.Settings.Extension

/-!
# Settings without the file of variables

An environment that a file of variables has extended gives the same settings once the file is gone.
The configuration file must not be behind the name of the file of variables, and no part of the
settings may ask for files to look single settings up in.
-/

namespace Crosslink

namespace FileTree

variable {tree : FileTree} {place here names : List String} {name : String}

/-- A last name is not looked for on the way to it. -/
theorem walk_without_last (hname : name ∈ place) (hup : name ≠ "..") (hhere : name ∉ here)
    (hnames : name ∉ names) :
    (tree.without place).walk here (names ++ [name]) = tree.walk here (names ++ [name]) := by
  induction names generalizing here with
  | nil => simp [walk]
  | cons other rest ih =>
    obtain ⟨hother, hrest⟩ := not_or.mp (mt List.mem_cons.mpr hnames)
    have hthere : name ∉ here ++ [other] := by simp [hhere, hother]
    simp only [List.cons_append, walk, ih (not_mem_above hup hhere) hrest,
      find?_without_of_ne (ne_place hname hthere), ih hthere hrest]

theorem mem_goal_join (hup : name ≠ "..") (p : Path) :
    name ∈ (p.join ⟨.relative, [name]⟩).goal := by
  rw [Path.goal, Path.join_of_relative rfl, goal_append (by simpa using hup.symm)]
  simp

/-- A path leads nowhere once the entry at its goal is gone. -/
theorem look_without_goal {p : Path} (hup : name ≠ "..") (hp : name ∉ p.segments)
    {found : Option Entry} (h : tree.look (p.join ⟨.relative, [name]⟩) = .ok found) :
    (tree.without (p.join ⟨.relative, [name]⟩).goal).look (p.join ⟨.relative, [name]⟩) =
      .ok none := by
  have hsegments : (p.join ⟨.relative, [name]⟩).segments = p.segments ++ [name] := by
    rw [Path.join_of_relative rfl]
  have hname := mem_goal_join hup p
  have hlocate : (tree.without (p.join ⟨.relative, [name]⟩).goal).locate
      (p.join ⟨.relative, [name]⟩) = tree.locate (p.join ⟨.relative, [name]⟩) := by
    rw [locate, locate, hsegments, walk_without_last hname hup (by simp) hp]
  rw [look] at h ⊢
  rw [hlocate]
  split at h
  · rename_i there hthere
    obtain rfl := goal_of_walk (locate_eq_ok.mp hthere).2.2
    exact congrArg Except.ok (find?_without_self (leadsUp_place hname hup))
  · cases h
  · rfl

end FileTree

namespace Settings

open FileTree

variable {tree : FileTree} {place : List String} {env extended : Environment} {file : Path}

theorem mem_goal_variablesFile (file : Path) : ".env" ∈ (variablesFile file).goal :=
  mem_goal_join (by decide) file.parent

/-- Without its file of variables, an environment stays as it is. -/
theorem extendFrom_without (hfile : ".env" ∉ file.segments)
    (h : extendFrom tree (variablesFile file) env = .ok extended) :
    extendFrom (tree.without (variablesFile file).goal) (variablesFile file) extended =
      .ok extended := by
  obtain ⟨found, hlook, -⟩ := bind_eq_ok_iff.mp h
  have hparent : ".env" ∉ file.parent.segments := fun hmem => hfile (List.dropLast_subset _ hmem)
  have hgone := look_without_goal (by decide) hparent (mapError_eq_ok_iff.mp hlook)
  have hgone : (tree.without (variablesFile file).goal).look (variablesFile file) = .ok none := hgone
  have htext : variablesText (tree.without (variablesFile file).goal) (variablesFile file) =
      .ok [] := by
    rw [variablesText, hgone]
    rfl
  rw [extendFrom, hgone, htext]
  simp only [Except.mapError, bind, Except.bind]
  split
  · rfl
  · rfl

/-- No part of the settings that is given in JSON asks for files to look single settings up in. -/
def AsksForNoFiles (env : Environment) : Prop :=
  ∀ name ∈ ["build", "app"], ∀ entries, part env name = .ok (.members entries) →
    Lookup.option? entries "_env_file" = none ∧ Lookup.option? entries "_secrets_dir" = none

theorem Lookup.settings_of_no_files {l : Lookup} (hfiles : l.files = []) (hdirectories : l.directories = [])
    (env : Environment) (tree tree' : FileTree) : l.settings env tree = l.settings env tree' := by
  simp only [Lookup.settings, Lookup.fileVariables, hfiles, hdirectories, List.mapM_nil]
  rfl

theorem Lookup.no_files_of_ofMembers {leading : String} {entries : List (Value × Value)}
    {l : Lookup} (hfile : option? entries "_env_file" = none)
    (hdirectory : option? entries "_secrets_dir" = none) (h : ofMembers leading entries = .ok l) :
    l.files = [] ∧ l.directories = [] := by
  simp only [ofMembers, hfile, hdirectory] at h
  split at h
  · cases h
    exact ⟨rfl, rfl⟩
  · cases h
    exact ⟨rfl, rfl⟩
  · cases h

/-- Settings in variables are then the same whatever the files are. -/
theorem AsksForNoFiles.ofEnvironment_eq (h : AsksForNoFiles env) (tree tree' : FileTree) :
    Variables.ofEnvironment env tree = Variables.ofEnvironment env tree' := by
  have hsingles (n : Part.Names) {l : Lookup} (hl : l.files = [] ∧ l.directories = []) :
      n.singles l env tree = n.singles l env tree' := by
    rw [Part.Names.singles, Part.Names.singles,
      Lookup.settings_of_no_files hl.1 hl.2 env tree tree']
  have hcheck {α : Type} (n : Part.Names) (hn : n.part ∈ ["build", "app"]) (p : Part)
      (hp : part env n.part = .ok p) (read : (String → Option Value) → Checked α) :
      p.check n env tree read = p.check n env tree' read := by
    cases p with
    | unset => rw [Part.check, Part.check, hsingles n ⟨rfl, rfl⟩]
    | notMapping => rfl
    | members entries =>
      obtain ⟨hfile, hdirectory⟩ := h n.part hn entries hp
      rw [Part.check, Part.check]
      cases hl : Lookup.ofMembers n.leading entries with
      | error f => rfl
      | ok l =>
        simp only [bind, Except.bind]
        rw [hsingles n (Lookup.no_files_of_ofMembers hfile hdirectory hl)]
  rw [Variables.ofEnvironment, Variables.ofEnvironment]
  cases hbuild : part env "build" with
  | error f => rfl
  | ok build =>
    cases happ : part env "app" with
    | error f => rfl
    | ok app =>
      simp only [bind, Except.bind, hcheck buildNames (by decide) build hbuild,
        hcheck appNames (by decide) app happ]

theorem readText_without (hname : ".env" ∈ place) (hfile : ".env" ∉ file.segments) :
    readText (tree.without place) file = readText tree file := by
  rw [readText, readText, read_without hname (by decide) hfile]

/-- Settings are the same without the file of variables. -/
theorem load_without (hfile : ".env" ∉ file.segments)
    (hasks : AsksForNoFiles extended)
    (h : extendFrom tree (variablesFile file) env = .ok extended) (wishes : Fields) :
    load extended (tree.without (variablesFile file).goal) file none wishes =
      load env tree file none wishes := by
  have hname := mem_goal_variablesFile file
  have hentries : readEntries (tree.without (variablesFile file).goal) file =
      readEntries tree file := by
    rw [readEntries, readEntries, look_without hname (by decide) hfile, readText_without hname hfile]
  have hconfiguration (build : BuildVariables) (c : Configuration) :
      ofConfiguration extended (tree.without (variablesFile file).goal) build file c =
        ofConfiguration extended tree build file c := by
    rw [ofConfiguration, ofConfiguration, entry_without hname (by decide) hfile]
  rw [load, load, Option.getD_none, h, extendFrom_without hfile h]
  simp only [ofEnvironment, hentries, hconfiguration, hasks.ofEnvironment_eq _ tree]

end Settings

end Crosslink
