import Crosslink.Proofs.Settings.Fields
import Crosslink.Settings.Load

/-!
# Loaded settings

What settings have to do with the configuration that they were made of, and what it takes that
loading gives settings.
-/

namespace Crosslink.Settings

open Settings.Configuration

/-- A path of the settings is what a text names, seen from the directory of the configuration
file. -/
def Names (env : Environment) (file : Path) (text : String) (p : Path) : Prop :=
  ∃ q, expandHome env (Path.ofString text) = .ok q ∧ p = file.parent.join q

theorem resolve_eq_ok_iff {env : Environment} {file p : Path} {text : String} :
    resolve env file.parent text = .ok p ↔ Names env file text p := by
  rw [resolve, bind_eq_ok_iff]
  simp only [Names, pure, Except.pure, Except.ok.injEq, eq_comm (a := p)]

/-- The log file of the settings; an empty text is none. -/
def NamesLog (env : Environment) (file : Path) (text : Option String) (p : Option Path) : Prop :=
  match text with
  | none | some "" => p = none
  | some text => ∃ q, Names env file text q ∧ p = some q

/-- The log file that a text stands for, if it stands for one. -/
def logPath (env : Environment) (directory : Path) : Option String → Except Fault (Option Path)
  | none | some "" => .ok none
  | some text => some <$> resolve env directory text

theorem logPath_eq_ok_iff {env : Environment} {file : Path} {text : Option String}
    {p : Option Path} : logPath env file.parent text = .ok p ↔ NamesLog env file text p := by
  unfold logPath NamesLog
  split
  · simp [eq_comm]
  · simp [eq_comm]
  · rename_i text _
    simp only [← resolve_eq_ok_iff]
    cases resolve env file.parent text <;> simp [Functor.map, Except.map, eq_comm]

/-- The settings have the values of a checked configuration, and what it leaves open from the
variables. -/
structure Realizes (env : Environment) (tree : FileTree) (build : BuildVariables) (file : Path)
    (c : Configuration) (s : Settings) : Prop where
  contentRoot : Names env file c.contentRoot s.contentRoot
  outputDir : Names env file c.outputDir s.outputDir
  repoBaseUrl : s.repoBaseUrl = c.repoBaseUrl
  defaultBranch : s.defaultBranch = c.defaultBranch
  strict : s.strict = c.strictMode.getD build.strictDefault
  missingIdentifier : s.missingIdentifier = c.missingIdentifier
  repoLinkRequiresPath : s.repoLinkRequiresPath = c.repoLinkRequiresPath
  extensions : s.extensions = c.extensions
  workers : s.workers = c.workers
  logFile : NamesLog env file c.logFile s.logFile
  mode : s.mode = build.mode
  configFile : s.configFile = if (tree.entry? file).isSome then some file else none

theorem ofConfiguration_eq (env : Environment) (tree : FileTree) (build : BuildVariables)
    (file : Path) (c : Configuration) : ofConfiguration env tree build file c = (do
      let contentRoot ← resolve env file.parent c.contentRoot
      let outputDir ← resolve env file.parent c.outputDir
      let logFile ← logPath env file.parent c.logFile
      return {
        contentRoot, outputDir
        repoBaseUrl := c.repoBaseUrl
        defaultBranch := c.defaultBranch
        strict := c.strictMode.getD build.strictDefault
        missingIdentifier := c.missingIdentifier
        repoLinkRequiresPath := c.repoLinkRequiresPath
        extensions := c.extensions
        workers := c.workers
        logFile
        mode := build.mode
        configFile := if (tree.entry? file).isSome then some file else none }) := by
  unfold ofConfiguration logPath
  generalize (if (tree.entry? file).isSome then some file else none) = configFile
  split <;> simp only [*] <;> rfl

theorem ofConfiguration_eq_ok_iff {env : Environment} {tree : FileTree} {build : BuildVariables}
    {file : Path} {c : Configuration} {s : Settings} :
    ofConfiguration env tree build file c = .ok s ↔ Realizes env tree build file c s := by
  rw [ofConfiguration_eq]
  simp only [bind_eq_ok_iff, logPath_eq_ok_iff, resolve_eq_ok_iff, pure, Except.pure,
    Except.ok.injEq]
  constructor
  · rintro ⟨_, hroot, _, hout, _, hlogFile, rfl⟩
    exact ⟨hroot, hout, rfl, rfl, rfl, rfl, rfl, rfl, rfl, hlogFile, rfl, rfl⟩
  · rintro ⟨hroot, hout, haddress, hbranch, hstrict, hmissing, hpath, hextensions, hworkers,
      hlogFile, hmode, hfile⟩
    refine ⟨_, hroot, _, hout, _, hlogFile, ?_⟩
    rw [← haddress, ← hbranch, ← hstrict, ← hmissing, ← hpath, ← hextensions, ← hworkers, ← hmode,
      ← hfile]

/-- Loading succeeds exactly if the file of variables, the variables, the configuration file and
what they give together can be taken. -/
theorem load_eq_ok_iff {env extended : Environment} {tree : FileTree} {file : Path}
    {envFile : Option Path} {wishes : Fields} {s : Settings} :
    load env tree file envFile wishes = (extended, .ok s) ↔
      extendFrom tree (envFile.getD (variablesFile file)) env = .ok extended ∧
      ∃ vars entries c, Variables.ofEnvironment extended tree = .ok vars ∧
        readEntries tree file = .ok entries ∧
        ofEntries (combine vars.build wishes entries) = .ok c ∧
        Realizes extended tree vars.build file c s := by
  rw [load]
  cases hextend : extendFrom tree (envFile.getD (variablesFile file)) env with
  | error f => simp
  | ok found =>
    simp only [Prod.mk.injEq, Except.ok.injEq]
    refine and_congr_right fun hfound => ?_
    subst hfound
    rw [ofEnvironment, bind_eq_ok_iff]
    simp only [bind_eq_ok_iff, mapError_eq_ok_iff]
    constructor
    · rintro ⟨vars, hvars, entries, hentries, h⟩
      split at h
      · cases h
      · rename_i c hc
        exact ⟨vars, entries, c, hvars, hentries, hc,
          ofConfiguration_eq_ok_iff.mp (mapError_eq_ok_iff.mp h)⟩
    · rintro ⟨vars, entries, c, hvars, hentries, hc, hs⟩
      refine ⟨vars, hvars, entries, hentries, ?_⟩
      rw [hc]
      exact mapError_eq_ok_iff.mpr (ofConfiguration_eq_ok_iff.mpr hs)

end Crosslink.Settings
