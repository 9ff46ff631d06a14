import Crosslink.CommandLine.Run
import Crosslink.Proofs.Settings.Extension
import Crosslink.Proofs.Settings.Layers
import Crosslink.Proofs.Settings.Loaded
import Mathlib.Control.Monad.Basic

/-!
# Precedence

Where each setting comes from, and that strictness that is asked for after loading is the same as
strictness that the caller wishes.
-/

namespace Crosslink.Settings

open Settings.Configuration CommandLine

/-- Each setting comes from the first layer that knows it. -/
structure Layered (env : Environment) (tree : FileTree) (file : Path) (build : BuildVariables)
    (entries : List (Value × Value)) (wishes : Fields) (s : Settings) : Prop where
  contentRoot : ∃ text, ReadFrom (fun v => readString v >>= requireText) default.contentRoot
    ((wished? "content_root" wishes).or (Value.lookup? "content_root" entries)) text ∧
    Names env file text s.contentRoot
  outputDir : ∃ text, ReadFrom (fun v => readString v >>= requireText) default.outputDir
    ((wished? "output_dir" wishes).or (Value.lookup? "output_dir" entries)) text ∧
    Names env file text s.outputDir
  repoBaseUrl : ReadFrom (fun v => readString v >>= requireAddress) default.repoBaseUrl
    ((wished? "repo_base_url" wishes).or
      ((Value.lookup? "repo_base_url" entries).or (nonEmpty build.repoBaseUrl))) s.repoBaseUrl
  defaultBranch : ReadFrom (fun v => readString v >>= requireBranch) default.defaultBranch
    ((wished? "default_branch" wishes).or
      ((Value.lookup? "default_branch" entries).or (nonEmpty build.defaultBranch))) s.defaultBranch
  strict : ReadFrom readTruth (build.mode == .production)
    ((wished? "strict_mode" wishes).or
      ((build.strict.map .bool).or (nonNull (Value.lookup? "strict_mode" entries)))) s.strict
  missingIdentifier : ReadFrom readPolicy default.missingIdentifier
    ((wished? "missing_identifier" wishes).or (Value.lookup? "missing_identifier" entries))
    s.missingIdentifier
  repoLinkRequiresPath : ReadFrom readTruth default.repoLinkRequiresPath
    ((wished? "repo_link_requires_path" wishes).or
      (Value.lookup? "repo_link_requires_path" entries)) s.repoLinkRequiresPath
  extensions : ReadFrom extensionsOf default.extensions
    ((wished? "extensions" wishes).or (Value.lookup? "extensions" entries)) s.extensions
  workers : ReadFrom (fun v => readInt v >>= requireWorkers) default.workers
    ((wished? "workers" wishes).or (Value.lookup? "workers" entries)) s.workers
  logFile : ∃ text, ReadFrom (readOptional readString) default.logFile
    ((wished? "log_file" wishes).or (Value.lookup? "log_file" entries)) text ∧
    NamesLog env file text s.logFile
  mode : s.mode = build.mode
  configFile : s.configFile = if (tree.entry? file).isSome then some file else none

/-- Strictness is never left open by a layer that knows it, so that the build mode decides only
where all of them are silent. -/
theorem strict_of_reads {build : BuildVariables} {wishes : Fields}
    {entries : List (Value × Value)} {strict : Option Bool}
    (h : ReadFrom (readOptional readTruth) none
      (Value.lookup? "strict_mode" (combine build wishes entries)) strict) :
    ReadFrom readTruth (build.mode == .production)
      ((wished? "strict_mode" wishes).or
        ((build.strict.map .bool).or (nonNull (Value.lookup? "strict_mode" entries))))
      (strict.getD build.strictDefault) := by
  have hread : ReadFrom readTruth build.strictDefault
      (nonNull (Value.lookup? "strict_mode" (combine build wishes entries)))
      (strict.getD build.strictDefault) := readFrom_nonNull h
  rw [lookup?_combine_strict, nonNull_or nonNull_wished?, nonNull_or (nonNull_bool _)] at hread
  cases hstrict : build.strict with
  | none =>
    rw [hstrict] at hread
    simpa [BuildVariables.strictDefault, hstrict] using hread
  | some b =>
    -- A variable for strictness is there, so that the fallback is not looked at.
    rw [hstrict] at hread
    cases hwish : wished? "strict_mode" wishes with
    | none => simpa [hwish, ReadFrom] using hread
    | some v => simpa [hwish, ReadFrom] using hread

theorem Layered.of_reads {env : Environment} {tree : FileTree} {file : Path}
    {build : BuildVariables} {entries : List (Value × Value)} {wishes : Fields} {c : Configuration}
    {s : Settings} (hc : Reads (combine build wishes entries) c)
    (hs : Realizes env tree build file c s) : Layered env tree file build entries wishes s where
  contentRoot := ⟨_, hc.contentRoot.congr (lookup?_combine_other (by decide)) rfl, hs.contentRoot⟩
  outputDir := ⟨_, hc.outputDir.congr (lookup?_combine_other (by decide)) rfl, hs.outputDir⟩
  repoBaseUrl := hc.repoBaseUrl.congr lookup?_combine_address hs.repoBaseUrl
  defaultBranch := hc.defaultBranch.congr lookup?_combine_branch hs.defaultBranch
  strict := hs.strict ▸ strict_of_reads hc.strictMode
  missingIdentifier :=
    hc.missingIdentifier.congr (lookup?_combine_other (by decide)) hs.missingIdentifier
  repoLinkRequiresPath :=
    hc.repoLinkRequiresPath.congr (lookup?_combine_other (by decide)) hs.repoLinkRequiresPath
  extensions := hc.extensions.congr (lookup?_combine_other (by decide)) hs.extensions
  workers := hc.workers.congr (lookup?_combine_other (by decide)) hs.workers
  logFile := ⟨_, hc.logFile.congr (lookup?_combine_other (by decide)) rfl, hs.logFile⟩
  mode := hs.mode
  configFile := hs.configFile

/-- A wish for strictness changes that field of an accepted configuration and nothing else. -/
theorem ofEntries_wishStrict {build : BuildVariables} {entries : List (Value × Value)}
    {c : Configuration} (b : Bool) (h : ofEntries (combine build [] entries) = .ok c) :
    ofEntries (combine build [("strict_mode", .bool b)] entries) =
      .ok { c with strictMode := some b } := by
  obtain ⟨hkeys, hc⟩ := ofEntries_eq_ok_iff.mp h
  have hcombine : combine build [("strict_mode", .bool b)] entries =
      Value.putEntry (.text "strict_mode") (.bool b) (combine build [] entries) := rfl
  have hself : Value.lookup? "strict_mode" (combine build [("strict_mode", .bool b)] entries) =
      some (.bool b) := Value.lookup?_putEntry_self
  have hother : ∀ {name : String}, name ≠ "strict_mode" →
      Value.lookup? name (combine build [] entries) =
        Value.lookup? name (combine build [("strict_mode", .bool b)] entries) :=
    fun hne => (Value.lookup?_putEntry_of_ne hne).symm
  refine ofEntries_eq_ok_iff.mpr ⟨fun e he => ?_, ?_⟩
  · obtain hkey | ⟨e', he', hkey⟩ := Value.key_of_mem_putEntry (hcombine ▸ he)
    · rw [hkey]
      rfl
    · exact hkey ▸ hkeys e' he'
  · exact {
      contentRoot := hc.contentRoot.congr (hother (by decide)) rfl
      outputDir := hc.outputDir.congr (hother (by decide)) rfl
      repoBaseUrl := hc.repoBaseUrl.congr (hother (by decide)) rfl
      defaultBranch := hc.defaultBranch.congr (hother (by decide)) rfl
      strictMode := (readFrom_some hself).mpr rfl
      missingIdentifier := hc.missingIdentifier.congr (hother (by decide)) rfl
      repoLinkRequiresPath := hc.repoLinkRequiresPath.congr (hother (by decide)) rfl
      extensions := hc.extensions.congr (hother (by decide)) rfl
      workers := hc.workers.congr (hother (by decide)) rfl
      logFile := hc.logFile.congr (hother (by decide)) rfl }

/-- Options that ask for strictness at most. -/
def strictOption (b : Option Bool) : CommandOptions := ⟨none, none, b, none, false⟩

/-- The same as a wish, null for options that do not ask. -/
def strictWish (b : Option Bool) : Fields := [("strict_mode", (b.map .bool).getD .null)]

/-- Settings with strictness that is asked for after loading are those that are loaded with a wish
for it. -/
theorem load_strictWish {env extended : Environment} {tree : FileTree} {file : Path}
    {envFile : Option Path} {s : Settings} (b : Option Bool)
    (h : load env tree file envFile [] = (extended, .ok s)) :
    load env tree file envFile (strictWish b) =
      (extended, .ok (applyOptions (strictOption b) s)) := by
  cases b with
  | none => exact h
  | some b =>
    obtain ⟨hextend, vars, entries, c, hvars, hentries, hc, hs⟩ := load_eq_ok_iff.mp h
    exact load_eq_ok_iff.mpr ⟨hextend, vars, entries, _, hvars, hentries, ofEntries_wishStrict b hc,
      { hs with strict := rfl }⟩

/-- Loading again, in the environment that the first time has left, gives the same. -/
theorem load_extended {env extended : Environment} {tree : FileTree} {file : Path}
    {envFile : Option Path} {wishes : Fields} {s : Settings}
    (h : load env tree file envFile wishes = (extended, .ok s)) :
    load extended tree file envFile wishes = (extended, .ok s) := by
  obtain ⟨hextend, hrest⟩ := load_eq_ok_iff.mp h
  exact load_eq_ok_iff.mpr ⟨extendFrom_extended hextend, hrest⟩

/-- Settings follow their layers. Strictness that is asked for once settings are there, without
wishes, gives what the wish for it gives, in the environment as it was and as it is then. -/
theorem load_precedence (env extended : Environment) (tree : FileTree) (file : Path)
    (envFile : Option Path) :
    (∀ wishes s, load env tree file envFile wishes = (extended, .ok s) →
      ∃ vars entries,
        extendFrom tree (envFile.getD (variablesFile file)) env = .ok extended ∧
        Variables.ofEnvironment extended tree = .ok vars ∧
        readEntries tree file = .ok entries ∧
        Layered extended tree file vars.build entries wishes s) ∧
    ∀ s, load env tree file envFile [] = (extended, .ok s) → ∀ b,
      load env tree file envFile (strictWish b) =
          (extended, .ok (applyOptions (strictOption b) s)) ∧
        load extended tree file envFile (strictWish b) =
          (extended, .ok (applyOptions (strictOption b) s)) := by
  refine ⟨fun wishes s h => ?_, fun s h b => ?_⟩
  · obtain ⟨hextend, vars, entries, c, hvars, hentries, hc, hs⟩ := load_eq_ok_iff.mp h
    exact ⟨vars, entries, hextend, hvars, hentries,
      .of_reads (ofEntries_eq_ok_iff.mp hc).2 hs⟩
  · have hwish := load_strictWish b h
    exact ⟨hwish, load_extended hwish⟩

namespace Sample

/-- A configuration file and a file of variables, which both say something about branches. -/
def layers : FileTree := ⟨[
  (["docref.yaml"], .file (Text.Utf8.encode
    "strict_mode: true\ndefault_branch: r/\n".toList)),
  ([".env"], .file (Text.Utf8.encode "DOCREF_DEFAULT_BRANCH=next\n".toList))]⟩

/-- The environment that the file of variables leaves behind. -/
def extended : Environment := ⟨[("DOCREF_STRICT", "off"), ("DOCREF_DEFAULT_BRANCH", "next")]⟩

/-- What the layers say, with a number of workers. -/
def layered (workers : Nat) : Settings where
  contentRoot := ⟨.relative, ["documentation"]⟩
  outputDir := ⟨.relative, ["build", "content"]⟩
  repoBaseUrl := default.repoBaseUrl
  defaultBranch := "r"
  strict := false
  missingIdentifier := .warn
  repoLinkRequiresPath := false
  extensions := [".md", ".mdx"]
  workers
  logFile := none
  mode := .development
  configFile := some defaultFile

end Sample

theorem load_precedence_sample :
    load ⟨[("DOCREF_STRICT", "off")]⟩ Sample.layers defaultFile none
        [("workers", .int 2), ("content_root", .null)] = (Sample.extended, .ok (Sample.layered 2)) ∧
      (∃ vars entries, Variables.ofEnvironment Sample.extended Sample.layers = .ok vars ∧
        readEntries Sample.layers defaultFile = .ok entries ∧
        Layered Sample.extended Sample.layers defaultFile vars.build entries
          [("workers", .int 2), ("content_root", .null)] (Sample.layered 2)) ∧
      load ⟨[("DOCREF_STRICT", "off")]⟩ Sample.layers defaultFile none (strictWish (some true)) =
        (Sample.extended, .ok { Sample.layered 4 with strict := true }) := by
  have hwishes : load ⟨[("DOCREF_STRICT", "off")]⟩ Sample.layers defaultFile none
      [("workers", .int 2), ("content_root", .null)] =
        (Sample.extended, .ok (Sample.layered 2)) := by decide +kernel
  have hplain : load ⟨[("DOCREF_STRICT", "off")]⟩ Sample.layers defaultFile none [] =
      (Sample.extended, .ok (Sample.layered 4)) := by decide +kernel
  obtain ⟨hlayers, hstrict⟩ := load_precedence ⟨[("DOCREF_STRICT", "off")]⟩ Sample.extended
    Sample.layers defaultFile none
  obtain ⟨vars, entries, -, hvars, hentries, hlayered⟩ := hlayers _ _ hwishes
  exact ⟨hwishes, ⟨vars, entries, hvars, hentries, hlayered⟩, (hstrict _ hplain (some true)).1⟩

end Crosslink.Settings
