import Crosslink.Proofs.Build.Verdict
import Crosslink.Proofs.CommandLine.Parts
import Crosslink.Proofs.FileTree.Opening
import Crosslink.Proofs.Settings.Failure

/-!
# Exit codes

The commands that build, with no other option than one for strictness, and the codes with which
they end. A run reads the level of the log, loads settings, opens the log file and builds; each of
these may end it. A strict build and a permissive one tell of problems in different ways, the one
by failing, the other by its result, but a check that has met any of them ends with the same code.

A log file belongs to no build: it is opened before the files are looked for, wherever it lies, so
that what is built is the tree with that file in it.
-/

namespace Crosslink.CommandLine

/-- The switch for a wish about strictness. -/
def strictFlag : Option Bool → List String
  | none => []
  | some true => ["--strict"]
  | some false => ["--no-strict"]

/-- The command line of a command that builds, with no other option. -/
def buildLine (write : Bool) (strict : Option Bool) : List String :=
  (if write then "build" else "check") :: strictFlag strict

/-- The code with which a run ends. -/
def exitCode : Except Stop Unit → Nat
  | .ok () => 0
  | .error (.exit code) => code
  | .error (.fault _) => 1

/-- A run before its first part. -/
def Run.start (environment : Environment) (tree : FileTree) : Run where
  environment
  workspace := ⟨tree, .empty⟩
  threshold := Level.warning.number
  output := []
  errors := []

variable {environment : Environment} {tree : FileTree}

theorem execute_of_gives {args : List String} {outcome : Except Stop Unit} {w : Workspace}
    (h : (Run.start environment tree).Gives (program args) outcome w) :
    (execute args environment tree).code = exitCode outcome ∧
      (execute args environment tree).run.workspace = w := by
  obtain ⟨s, h, hw⟩ := h
  have hrun : (ExceptT.run (program args)).run {
      environment
      workspace := ⟨tree, .empty⟩
      threshold := Level.warning.number
      output := []
      errors := [] } = (outcome, s) := h
  rw [execute, hrun]
  rcases outcome with (code | f) | _ <;> exact ⟨rfl, hw⟩

theorem program_buildLine (write : Bool) (strict : Option Bool) :
    program (buildLine write strict) = runCommand ⟨false, none, false⟩
      (if write then .build else .check) (strictFlag strict) := by
  have h : Request.ofArguments (buildLine write strict) = .command ⟨false, none, false⟩
      (if write then .build else .check) (strictFlag strict) := by
    cases write <;> rcases strict with _ | _ | _ <;> decide +kernel
  rw [program, h]

theorem ofArguments_strictFlag (write : Bool) (strict : Option Bool) :
    CommandRequest.ofArguments (if write then .build else .check) (strictFlag strict) =
      .run ⟨none, none, strict, none, false⟩ := by
  cases write <;> rcases strict with _ | _ | _ <;> decide +kernel

/-- The settings with which commands start that name no configuration file. -/
abbrev defaultSettings (environment : Environment) (tree : FileTree) : Except Failure Settings :=
  loaded environment tree Settings.defaultFile

theorem levelOf_error {e : Stop} (h : levelOf environment tree = .error e) : ∃ f, e = .fault f := by
  rw [levelOf] at h
  split at h <;> cases h
  exact ⟨_, rfl⟩

/-- The tree in which the log file of the settings is opened. -/
def logged (tree : FileTree) (settings : Settings) : FileTree := (openLog tree settings.logFile).1

/-- The level of the log can be read, or settings cannot be loaded for the same or another fault;
the log file can be opened, and the pages can be written. -/
structure Usable (environment : Environment) (tree : FileTree) : Prop where
  level : (∃ level, levelOf environment tree = .ok level) ∨
    ∃ f, defaultSettings environment tree = .error (.fault f)
  log : ∀ settings, defaultSettings environment tree = .ok settings →
    (openLog tree settings.logFile).2 = .ok ()
  pages : ∀ settings, defaultSettings environment tree = .ok settings →
    Build.Writable settings (logged tree settings)

/-- Where settings meet no fault, the level of the log is read. -/
theorem Usable.exists_level (h : Usable environment tree)
    (hs : ∀ f, defaultSettings environment tree ≠ .error (.fault f)) :
    ∃ level, levelOf environment tree = .ok level :=
  h.level.resolve_right fun ⟨f, hf⟩ => hs f hf

/-- With a level of the log, a command goes on from the settings and the opened log file. -/
theorem gives_program {r : Run} {level : Option Level} (settings : Except Error Settings)
    {w : Workspace} {outcome : Except Stop Unit} (write : Bool) (strict : Option Bool)
    (hlevel : levelOf r.environment r.workspace.tree = .ok level)
    (hloaded : handedOn (defaultSettings r.environment r.workspace.tree) = .ok settings)
    (hlog : (openLog r.workspace.tree (settings.toOption.bind (·.logFile))).2 = .ok ())
    (hrun : ∀ s : Run, s.workspace = { r.workspace with
        tree := (openLog r.workspace.tree (settings.toOption.bind (·.logFile))).1 } →
      s.Gives (do
        let o : CommandOptions := ⟨none, none, strict, none, false⟩
        (if write then Command.build else .check).run
          (← requireSettings Settings.defaultFile settings o) o) outcome w) :
    r.Gives (program (buildLine write strict)) outcome w := by
  rw [program_buildLine, runCommand, ofArguments_strictFlag]
  have hread := r.perform_requestedLevel
  have hload := r.gives_loadSettings Settings.defaultFile
  rw [hlevel] at hread
  rw [hloaded] at hload
  refine Run.Gives.next hread (hload.bind fun s hs => ?_)
  have hopen := s.gives_setUpLogging ⟨false, none, false⟩ rfl level settings
  rw [hs, hlog] at hopen
  exact hopen.bind hrun

/-- Settings that violate a rule or cannot be read end the run with a code of their own. -/
theorem ends_refused (h : Usable environment tree) {e : Error}
    (he : defaultSettings environment tree = .error (.error e)) (write : Bool)
    (strict : Option Bool) :
    (execute (buildLine write strict) environment tree).code = 2 ∧
      (execute (buildLine write strict) environment tree).run.workspace = ⟨tree, .empty⟩ := by
  obtain ⟨level, hlevel⟩ := h.exists_level fun f hf => by cases he.symm.trans hf
  have hends : (Run.start environment tree).Gives (program (buildLine write strict))
      (.error (.exit 2)) ⟨tree, .empty⟩ := by
    refine gives_program (.error e) write strict hlevel (congrArg handedOn he) rfl fun s hs => ?_
    have hw : s.workspace = ⟨tree, .empty⟩ := hs
    have hrefused : s.Gives (requireSettings Settings.defaultFile (.error e)
        ⟨none, none, strict, none, false⟩) (.error (.exit 2)) s.workspace :=
      (s.gives_complain _).bind fun t ht => ht ▸ t.gives_throw _
    rw [← hw]
    exact hrefused.bind_error
  exact execute_of_gives hends

/-- A fault of the settings ends the run, unless another one has ended it before. -/
theorem ends_faulted {f : Fault} (hf : defaultSettings environment tree = .error (.fault f))
    (write : Bool) (strict : Option Bool) :
    (execute (buildLine write strict) environment tree).code = 1 ∧
      (execute (buildLine write strict) environment tree).run.workspace = ⟨tree, .empty⟩ := by
  obtain ⟨g, hg⟩ : ∃ g, (Run.start environment tree).Gives (program (buildLine write strict))
      (.error (.fault g)) ⟨tree, .empty⟩ := by
    rw [program_buildLine, runCommand]
    have hread := (Run.start environment tree).perform_requestedLevel
    rcases hl : levelOf environment tree with e | level
    · obtain ⟨g, rfl⟩ := levelOf_error hl
      exact ⟨g, Run.Gives.bind_error ⟨_, hread.trans (Prod.ext hl rfl), rfl⟩⟩
    · have hload : (Run.start environment tree).Gives (loadSettings Settings.defaultFile)
          (handedOn (defaultSettings environment tree)) ⟨tree, .empty⟩ :=
        Run.gives_loadSettings _ _
      rw [hf] at hload
      exact ⟨f, Run.Gives.next (hread.trans (Prod.ext hl rfl)) hload.bind_error⟩
  exact execute_of_gives hg

/-- With settings, a command ends as its build says, on the tree in which the log file is open. -/
theorem ends_loaded (h : Usable environment tree) {settings : Settings}
    (hs : defaultSettings environment tree = .ok settings) (write : Bool)
    (strict : Option Bool) :
    let built := Build.runAll (settings.withStrict (strict.getD settings.strict))
      (logged tree settings) write
    (execute (buildLine write strict) environment tree).code =
        exitCode ((built.1.mapError stopOf).bind (verdict write)) ∧
      (execute (buildLine write strict) environment tree).run.workspace.tree = built.2.tree := by
  obtain ⟨level, hlevel⟩ := h.exists_level fun f hf => by cases hs.symm.trans hf
  intro built
  have hends : (Run.start environment tree).Gives (program (buildLine write strict))
      ((built.1.mapError stopOf).bind (verdict write)) (afterJob ⟨logged tree settings, .empty⟩
        (Build.run (settings.withStrict (strict.getD settings.strict)) none write)) := by
    refine gives_program (.ok settings) write strict hlevel (congrArg handedOn hs)
      (h.log settings hs) fun s hw => ?_
    have hw : s.workspace = ⟨logged tree settings, .empty⟩ := hw
    refine Run.Gives.next (s := s) (a := settings.withStrict (strict.getD settings.strict)) rfl ?_
    have hrun := s.gives_run (settings.withStrict (strict.getD settings.strict))
      (o := ⟨none, none, strict, none, false⟩) rfl write
    rw [hw] at hrun
    exact hrun
  obtain ⟨hcode, hworkspace⟩ := execute_of_gives hends
  exact ⟨hcode, (congrArg Workspace.tree hworkspace).trans rfl⟩

theorem exitCode_verdict_eq_zero {x : Except Failure BuildResult} {write : Bool} :
    exitCode ((x.mapError stopOf).bind (verdict write)) = 0 ↔
      ∃ result, x = .ok result ∧ (write || result.ok) = true := by
  rcases x with (e | f) | result
  · simp [Except.mapError, Except.bind, stopOf, exitCode]
  · simp [Except.mapError, Except.bind, stopOf, exitCode]
  · simp only [Except.mapError, Except.bind, verdict, Except.ok.injEq, exists_eq_left']
    cases write || result.ok <;> simp [exitCode]

theorem exitCode_verdict_le (x : Except Failure BuildResult) (write : Bool) :
    exitCode ((x.mapError stopOf).bind (verdict write)) ≤ 1 := by
  rcases x with (e | f) | result
  · exact Nat.le_refl 1
  · exact Nat.le_refl 1
  · simp only [Except.mapError, Except.bind, verdict]
    cases write || result.ok <;> simp [exitCode]

/-- Settings load, and a permissive build of all content files has a result without problems. -/
def Passes (environment : Environment) (tree : FileTree) (write : Bool) : Prop :=
  ∃ settings result, defaultSettings environment tree = .ok settings ∧
    (Build.runAll (settings.withStrict false) (logged tree settings) write).1 = .ok result ∧
      result.ok = true

/-- A command ends well exactly if settings load and its build has a result, which is without
problems unless pages are written. -/
theorem code_eq_zero_iff (h : Usable environment tree) (write : Bool) (strict : Option Bool) :
    (execute (buildLine write strict) environment tree).code = 0 ↔
      ∃ settings result, defaultSettings environment tree = .ok settings ∧
        (Build.runAll (settings.withStrict (strict.getD settings.strict))
          (logged tree settings) write).1 = .ok result ∧ (write || result.ok) = true := by
  cases hs : defaultSettings environment tree with
  | error failure =>
    cases failure with
    | error e => simp [ends_refused h hs write strict]
    | fault f => simp [ends_faulted hs write strict]
  | ok settings =>
    rw [(ends_loaded h hs write strict).1, exitCode_verdict_eq_zero]
    simp

/-- A command ends with the code of refused settings exactly if they are refused. -/
theorem code_eq_two_iff (h : Usable environment tree) (write : Bool) (strict : Option Bool) :
    (execute (buildLine write strict) environment tree).code = 2 ↔
      ∃ e, defaultSettings environment tree = .error (.error e) ∧ e.category = .configuration := by
  cases hs : defaultSettings environment tree with
  | error failure =>
    cases failure with
    | error e => simp [ends_refused h hs write strict, Settings.category_of_load hs]
    | fault f => simp [ends_faulted hs write strict]
  | ok settings =>
    have hle := exitCode_verdict_le (Build.runAll (settings.withStrict
      (strict.getD settings.strict)) (logged tree settings) write).1 write
    rw [← (ends_loaded h hs write strict).1] at hle
    simp only [reduceCtorEq, false_and, exists_false, iff_false]
    omega

/-- A check ends well exactly if settings load and a permissive build passes. -/
theorem code_check_eq_zero_iff (h : Usable environment tree) (strict : Option Bool) :
    (execute (buildLine false strict) environment tree).code = 0 ↔
      Passes environment tree false := by
  rw [code_eq_zero_iff h, Passes]
  refine exists_congr fun settings => ?_
  simp only [exists_and_left, Bool.false_or]
  exact and_congr_right fun _ => Build.runAll_passes settings _ (logged tree settings) false

/-- Whether a build passes does not depend on writing its pages. -/
theorem passes_iff (h : Usable environment tree) (write : Bool) :
    Passes environment tree write ↔ Passes environment tree false := by
  cases write with
  | false => exact Iff.rfl
  | true =>
    refine exists_congr fun settings => ?_
    simp only [exists_and_left]
    exact and_congr_right fun hs => Build.runAll_write_passes (h.pages settings hs)

/-- A strict build ends well exactly if a permissive one passes. -/
theorem code_strict_build_eq_zero_iff (h : Usable environment tree) :
    (execute (buildLine true (some true)) environment tree).code = 0 ↔
      Passes environment tree true := by
  rw [code_eq_zero_iff h, Passes]
  refine exists_congr fun settings => exists_congr fun result => and_congr_right fun _ => ?_
  rw [Bool.true_or, and_iff_left rfl]
  exact Build.runAll_strict_ok_iff settings (logged tree settings) true result

/-- All checks end with the same code. -/
theorem code_check_eq (h : Usable environment tree) (strict : Option Bool) :
    (execute (buildLine false strict) environment tree).code =
      (execute (buildLine false none) environment tree).code := by
  have hzero := (code_check_eq_zero_iff h strict).trans (code_check_eq_zero_iff h none).symm
  cases hs : defaultSettings environment tree with
  | error failure =>
    cases failure with
    | error e => rw [(ends_refused h hs false strict).1, (ends_refused h hs false none).1]
    | fault f => rw [(ends_faulted hs false strict).1, (ends_faulted hs false none).1]
  | ok settings =>
    have hle (strict : Option Bool) :
        (execute (buildLine false strict) environment tree).code ≤ 1 :=
      (ends_loaded h hs false strict).1 ▸ exitCode_verdict_le _ _
    have hstrict := hle strict
    have hnone := hle none
    omega

/-- A check leaves the tree as it is, but for the log file. -/
theorem tree_check (h : Usable environment tree) (strict : Option Bool) :
    (execute (buildLine false strict) environment tree).run.workspace.tree =
      match defaultSettings environment tree with
      | .ok settings => logged tree settings
      | .error _ => tree := by
  cases hs : defaultSettings environment tree with
  | error failure =>
    cases failure with
    | error e => rw [(ends_refused h hs false strict).2]
    | fault f => rw [(ends_faulted hs false strict).2]
  | ok settings => rw [(ends_loaded h hs false strict).2, Build.tree_runAll]

/-- The files of a tree in which the log file of the settings is opened. -/
theorem file_logged {settings : Settings} (h : (openLog tree settings.logFile).2 = .ok ())
    (place : List String) (bytes : List UInt8) :
    (logged tree settings).find? place = some (.file bytes) ↔
      tree.find? place = some (.file bytes) ∨ ∃ file, settings.logFile = some file ∧
        place = file.goal ∧ tree.find? place = none ∧ bytes = [] := by
  rw [logged]
  cases hfile : settings.logFile with
  | none => simp [openLog]
  | some file =>
    rw [hfile] at h
    simp only [openLog, Option.some.injEq, exists_eq_left']
    exact Log.file_openFile h place bytes

namespace Sample

open Settings

/-- The default settings with a log file and a configuration file. -/
def settings (logFile configFile : Option Path) : Settings where
  contentRoot := .ofString Configuration.default.contentRoot
  outputDir := .ofString Configuration.default.outputDir
  repoBaseUrl := Configuration.default.repoBaseUrl
  defaultBranch := Configuration.default.defaultBranch
  strict := false
  missingIdentifier := Configuration.default.missingIdentifier
  repoLinkRequiresPath := Configuration.default.repoLinkRequiresPath
  extensions := Configuration.default.extensions
  workers := Configuration.default.workers
  logFile
  mode := .development
  configFile

/-- A page and another file in the working directory. -/
def project (name text : String) : FileTree := ⟨[
  (["documentation"], .directory),
  (["documentation", "a.md"], .file (Text.Utf8.encode "a\n".toList)),
  ([name], .file (Text.Utf8.encode text.toList))]⟩

/-- The page with a configuration file that names a log file among the outputs. -/
def loggedTree : FileTree := project "docref.yaml" "log_file: build/content/x.log\n"

def loggedSettings : Settings :=
  settings (some ⟨.relative, ["build", "content", "x.log"]⟩) (some ⟨.relative, ["docref.yaml"]⟩)

/-- A variable whose value has a member of a wrong kind. -/
def wrongEnvironment : Environment := ⟨[("BUILD", "\x7b\"_env_file\": 5\x7d")]⟩

/-- The page with a file of variables that hides that variable once it is read. -/
def hidingTree : FileTree := project ".env" "build=\x7b\x7d\n"

def hidingSettings : Settings := settings none none

theorem loaded_logged : defaultSettings ⟨[]⟩ loggedTree = .ok loggedSettings := by decide +kernel

theorem loaded_hiding : defaultSettings wrongEnvironment hidingTree = .ok hidingSettings := by
  decide +kernel

theorem log_opened : (openLog loggedTree loggedSettings.logFile).2 = .ok () := by decide +kernel

/-- The only page can be written. -/
theorem writable_logged : Build.Writable loggedSettings (logged loggedTree loggedSettings) :=
  .of_found [⟨.relative, ["documentation", "a.md"]⟩] (by decide +kernel)
    (by decide +kernel)

theorem writable_hiding : Build.Writable hidingSettings hidingTree :=
  .of_found [⟨.relative, ["documentation", "a.md"]⟩] (by decide +kernel)
    (by decide +kernel)

/-- A build passes whose result is seen to be without problems. -/
theorem passes_of_map {environment : Environment} {tree : FileTree} {settings : Settings}
    {write : Bool} (hs : defaultSettings environment tree = .ok settings)
    (h : (Build.runAll (settings.withStrict false) (logged tree settings) write).1.map
      BuildResult.ok = .ok true) : Passes environment tree write := by
  cases hr : (Build.runAll (settings.withStrict false) (logged tree settings) write).1 with
  | error f => simp [hr, Except.map] at h
  | ok result =>
    rw [hr] at h
    exact ⟨settings, result, hs, hr, Except.ok.inj h⟩

end Sample

end Crosslink.CommandLine
