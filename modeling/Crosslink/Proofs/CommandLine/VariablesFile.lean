import Crosslink.Proofs.CommandLine.Bypass
import Crosslink.Proofs.CommandLine.ExitCode
import Crosslink.Proofs.Settings.Without

/-!
# Runs without the file of variables

A run reads the level of the log before it reads the file of variables, and everything else after
it. Without the file, in an environment that has its variables already, all goes the same way but
for the messages of the log that the console shows.
-/

namespace Crosslink.CommandLine

open FileTree

variable {α : Type} {args rest : List String} {options : ProgramOptions} {c : Command}
  {env extended : Environment} {tree : FileTree} {file : Path} {place : List String}
  {entry : Option Entry} {t u : Nat} {r s : Run}

/-! ## Steps before a command -/

/-- Open a log file; a failure is a fault. -/
def openFor (file : Path) (tree : FileTree) : FileTree × Except Fault Unit :=
  ((Log.openFile tree file).1, (Log.openFile tree file).2.mapError .files)

/-- Make ready the log file that is named, or else one of the user's if it is wanted. -/
def prepareLog (env : Environment) (wanted : Bool) (named : Option Path) (tree : FileTree) :
    FileTree × Except Fault Unit :=
  match named, wanted with
  | some file, _ => openFor file tree
  | none, false => (tree, .ok ())
  | none, true =>
    match Log.ensureDirectory env tree with
    | (tree, .error f) => (tree, .error f)
    | (tree, .ok directory) => openFor (Log.defaultFile directory) tree

namespace Run

/-- The run after its log file was made ready; unless that has failed, the threshold is set. -/
def afterLog (r : Run) (threshold : Nat) : FileTree × Except Fault Unit → Except Stop Unit × Run
  | (tree, .error f) => (.error (.fault f), { r with workspace := { r.workspace with tree } })
  | (tree, .ok ()) => (.ok (), { r with workspace := { r.workspace with tree }, threshold })

theorem perform_next {β : Type} {x : Part α} {f : α → Part β} {a : α}
    (h : r.perform x = (.ok a, s)) : r.perform (x >>= f) = s.perform (f a) := by
  rw [perform_bind, h]

theorem perform_stop {β : Type} {x : Part α} {f : α → Part β} {e : Stop}
    (h : r.perform x = (.error e, s)) : r.perform (x >>= f) = (.error e, s) := by
  rw [perform_bind, h]

theorem perform_changeTree (r : Run) (change : FileTree → FileTree × Except Fault α) :
    r.perform (changeTree change) = ((change r.workspace.tree).2.mapError .fault,
      { r with workspace := { r.workspace with tree := (change r.workspace.tree).1 } }) := rfl

theorem perform_setUpLogging (r : Run) (level : Option Level)
    (settings : Except Error Settings) :
    r.perform (setUpLogging options level settings) =
      r.afterLog (consoleThreshold options.verbose (level.map Level.text))
        (prepareLog r.environment options.log (settings.toOption.bind (·.logFile))
          r.workspace.tree) := by
  have hopen (q : Run) (file : Path) (threshold : Nat) :
      q.perform (do
        changeTree (openFor file)
        modify fun r => { r with threshold }) =
      q.afterLog threshold (openFor file q.workspace.tree) := by
    rw [perform_bind, perform_changeTree]
    rcases openFor file q.workspace.tree with ⟨tree, f | _⟩ <;> rfl
  have hget (f : Run → Part Unit) : r.perform (get >>= f) = r.perform (f r) := rfl
  rw [setUpLogging, logFile?]
  cases settings.toOption.bind (·.logFile) with
  | some file => exact hopen r file _
  | none =>
    cases options.log with
    | false => rfl
    | true =>
      simp only [Option.isSome_none, Bool.not_true, Bool.or_false, Bool.false_eq_true, if_false,
        bind_assoc, hget, prepareLog, pure_bind]
      rw [perform_bind, perform_changeTree]
      rcases Log.ensureDirectory r.environment r.workspace.tree with ⟨tree, f | directory⟩
      · rfl
      · exact hopen _ _ _

theorem perform_loadSettings (r : Run) (file : Path) :
    r.perform (loadSettings file) =
      (handedOn (loaded r.environment r.workspace.tree file), { r with
        environment := (Settings.load r.environment r.workspace.tree file none []).1 }) := by
  have hget (f : Run → Part (Except Error Settings)) : r.perform (get >>= f) = r.perform (f r) := rfl
  rw [loadSettings, hget, loaded]
  rcases Settings.load r.environment r.workspace.tree file none [] with
    ⟨environment, (e | f) | settings⟩ <;> rfl

end Run

/-- A log file is made ready in the same way beside a file that its path does not lead over. -/
theorem bypasses_prepareLog (hname : ".env" ∈ place) {wanted : Bool} {named : Option Path}
    (hnamed : ∀ p, named = some p → ".env" ∉ p.segments)
    (hdirectory : wanted = true → ∀ p, Log.directory env = .ok p → ".env" ∉ p.segments) :
    FileTree.Bypasses place (prepareLog env wanted named) := by
  have hopen {file : Path} (hfile : ".env" ∉ file.segments) :
      FileTree.Bypasses place (openFor file) := by
    intro tree
    obtain ⟨hsame, hkept⟩ := bypasses_openFile hname (by decide) hfile tree
    simp only at hsame
    rw [openFor, hsame]
    exact ⟨rfl, hkept⟩
  have hstay : FileTree.Bypasses place fun tree => (tree, (.ok () : Except Fault Unit)) :=
    fun tree => ⟨rfl, rfl⟩
  match named, wanted with
  | some file, _ => exact hopen (hnamed file rfl)
  | none, false => exact hstay
  | none, true =>
    cases hpath : Log.directory env with
    | error f =>
      intro tree
      simp only [prepareLog, Log.ensureDirectory, hpath]
      exact ⟨trivial, trivial⟩
    | ok p =>
      have hp := hdirectory rfl p hpath
      have hlog : ".env" ∉ (Log.defaultFile p).segments := by
        rw [Log.defaultFile, Path.join_of_relative rfl]
        simp [hp]
      refine (bypasses_makeDirectory hname (by decide) hp).andThen (hopen hlog)
        (fun f => .error (.files f)) (fun tree made f h => ?_) fun tree made h => ?_ <;>
        simp only [prepareLog, Log.ensureDirectory, hpath, h]

theorem handedOn_eq_ok {x : Except Failure α} {a : α} : handedOn x = .ok (.ok a) ↔ x = .ok a := by
  rcases x with (e | f) | b <;> simp [handedOn]

/-- A fault in reading the level of the log is met again in loading settings. -/
theorem handedOn_of_levelOf {f : Fault}
    (hextend : Settings.extendFrom tree (Settings.variablesFile file) env = .ok extended)
    (h : levelOf extended tree = .error (.fault f)) :
    handedOn (loaded env tree file) = .error (.fault f) := by
  have hvars : (Settings.Variables.ofEnvironment extended tree).mapError
      Settings.variablesFailure = .error (.fault f) := by
    rw [levelOf] at h
    rcases hv : Settings.Variables.ofEnvironment extended tree with g | v <;> rw [hv] at h
    · cases g <;> cases h <;> rfl
    · cases h
  have hload : loaded env tree file = Settings.ofEnvironment extended tree file [] := by
    rw [loaded, Settings.load, Option.getD_none, hextend]
  rw [hload, Settings.ofEnvironment, hvars]
  rfl

/-! ## Runs -/

/-- The configuration file that options name. -/
def ProgramOptions.configFile (options : ProgramOptions) : Path :=
  options.config.getD Settings.defaultFile

/-- The threshold of the console for an environment. -/
def ProgramOptions.threshold (options : ProgramOptions) (env : Environment) (tree : FileTree) :
    Nat :=
  consoleThreshold options.verbose ((levelOf env tree).toOption.join.map Level.text)

/-- A command has nothing to do with its file of variables but to read it: no path leads over the
file, and no part of the extended environment asks for files to look settings up in. -/
structure Apart (options : ProgramOptions) (c : Command) (rest : List String)
    (env extended : Environment) (tree : FileTree) : Prop where
  configFile : ".env" ∉ options.configFile.segments
  asks : Settings.AsksForNoFiles extended
  directory : options.log = true → ∀ p, Log.directory extended = .ok p → ".env" ∉ p.segments
  logFile : ∀ settings p, loaded env tree options.configFile = .ok settings →
    settings.logFile = some p → ".env" ∉ p.segments
  paths : ∀ settings o, loaded env tree options.configFile = .ok settings →
    CommandRequest.ofArguments c rest = .run o →
      Avoids ".env" (Settings.variablesFile options.configFile).goal (applyOptions o settings)
  report : ∀ o p, CommandRequest.ofArguments c rest = .run o → o.report = some p →
    ".env" ∉ p.segments

/-- What a command does once logging is set up. -/
def answer (options : ProgramOptions) (c : Command) (rest : List String)
    (settings : Except Error Settings) : Part Unit := do
  match CommandRequest.ofArguments c rest with
  | .refused =>
    complain c.usage
    throw (.exit 2)
  | .help => print c.usage
  | .run o => c.run (← requireSettings options.configFile settings o) o

theorem runCommand_eq (options : ProgramOptions) (c : Command) (rest : List String) :
    runCommand options c rest = (do
      let level ← requestedLevel
      let settings ← loadSettings options.configFile
      setUpLogging options level settings
      answer options c rest settings) := rfl

namespace Apart

variable (h : Apart options c rest env extended tree)

include h

theorem bypasses_answer {settings : Except Error Settings}
    (hloaded : handedOn (loaded env tree options.configFile) = .ok settings) :
    Bypasses (Settings.variablesFile options.configFile).goal (answer options c rest settings) := by
  rw [answer]
  cases ho : CommandRequest.ofArguments c rest with
  | refused => exact (bypasses_complain _).next fun _ => bypasses_throw _
  | help => exact bypasses_print _
  | run o =>
    cases settings with
    | error e =>
      simp only [requireSettings, bind_assoc]
      exact (bypasses_complain _).next fun _ => bypasses_throw _
    | ok settings =>
      simp only [requireSettings, pure_bind]
      exact bypasses_run (Settings.mem_goal_variablesFile _) (by decide +kernel) (by decide)
        (h.paths settings o (handedOn_eq_ok.mp hloaded) ho) (fun p => h.report o p ho) c

/-- Once settings are loaded, each run takes the threshold of its own level. -/
theorem perform_logged {settings : Except Error Settings}
    (hloaded : handedOn (loaded env tree options.configFile) = .ok settings)
    (level level' : Option Level) :
    let place := (Settings.variablesFile options.configFile).goal
    let r := Run.perform { Run.start env tree with environment := extended } (do
      setUpLogging options level settings
      answer options c rest settings)
    let s := (Run.start extended (tree.without place)).perform (do
      setUpLogging options level' settings
      answer options c rest settings)
    s.1 = r.1 ∧ Alike place (tree.find? place)
      (consoleThreshold options.verbose (level.map Level.text))
      (consoleThreshold options.verbose (level'.map Level.text)) r.2 s.2 := by
  intro place r s
  have hfile : ∀ p, settings.toOption.bind (·.logFile) = some p → ".env" ∉ p.segments := by
    intro p hp
    cases settings with
    | error e => cases hp
    | ok settings => exact h.logFile settings p (handedOn_eq_ok.mp hloaded) hp
  obtain ⟨hsame, hkept⟩ :=
    bypasses_prepareLog (Settings.mem_goal_variablesFile options.configFile) hfile h.directory tree
  have hr : Run.perform { Run.start env tree with environment := extended }
      (setUpLogging options level settings) = _ := Run.perform_setUpLogging _ level settings
  have hs : (Run.start extended (tree.without place)).perform
      (setUpLogging options level' settings) = _ := Run.perform_setUpLogging _ level' settings
  simp only [r, s, Run.perform_bind, hr, hs]
  simp only [Run.start, hsame, place]
  rcases hp : prepareLog extended options.log (settings.toOption.bind (·.logFile)) tree with
    ⟨made, f | _⟩ <;> rw [hp] at hkept
  · exact ⟨rfl, rfl, hkept, rfl, [], rfl, rfl⟩
  · refine And.imp_right InStep.toAlike (h.bypasses_answer hloaded ?_)
    exact ⟨⟨rfl, hkept, rfl, [], rfl, rfl⟩, rfl, rfl⟩

/-- Beside a file of variables and without it, in the environment that the file extends, a command
ends alike. -/
theorem perform_runCommand {level : Option Level} (hlevel : levelOf env tree = .ok level)
    (hextend : Settings.extendFrom tree (Settings.variablesFile options.configFile) env =
      .ok extended) :
    let place := (Settings.variablesFile options.configFile).goal
    let r := (Run.start env tree).perform (runCommand options c rest)
    let s := (Run.start extended (tree.without place)).perform (runCommand options c rest)
    s.1 = r.1 ∧ Alike place (tree.find? place) (options.threshold env tree)
      (options.threshold extended tree) r.2 s.2 := by
  intro place r s
  have hlevels : levelOf extended (tree.without place) = levelOf extended tree := by
    rw [levelOf, levelOf, h.asks.ofEnvironment_eq (tree.without place) tree]
  have hload : Settings.load env tree options.configFile none [] =
      (extended, loaded env tree options.configFile) := by
    rw [loaded, Settings.load, Option.getD_none, hextend]
  have hread : (Run.start env tree).perform requestedLevel = (.ok level, Run.start env tree) :=
    (Run.perform_requestedLevel _).trans (Prod.ext hlevel rfl)
  have hread' : (Run.start extended (tree.without place)).perform requestedLevel =
      (levelOf extended tree, Run.start extended (tree.without place)) :=
    (Run.perform_requestedLevel _).trans (Prod.ext hlevels rfl)
  have hloads (q : Run) (hq : Settings.load q.environment q.workspace.tree options.configFile none
      [] = (extended, loaded env tree options.configFile)) :
      q.perform (loadSettings options.configFile) =
        (handedOn (loaded env tree options.configFile), { q with environment := extended }) := by
    rw [Run.perform_loadSettings, loaded, hq]
  have hfirst := hloads (Run.start env tree) hload
  have hsecond := hloads (Run.start extended (tree.without place))
    ((Settings.load_without h.configFile h.asks hextend []).trans hload)
  simp only [r, s, runCommand_eq, Run.perform_next hread]
  rcases hl : levelOf extended tree with e | level' <;> rw [hl] at hread'
  · obtain ⟨f, rfl⟩ := levelOf_error hl
    rw [handedOn_of_levelOf hextend hl] at hfirst
    rw [Run.perform_stop hread', Run.perform_stop hfirst]
    exact ⟨rfl, rfl, rfl, rfl, [], rfl, rfl⟩
  · rw [Run.perform_next hread']
    rcases hloaded : handedOn (loaded env tree options.configFile) with e | settings <;>
      rw [hloaded] at hfirst hsecond
    · rw [Run.perform_stop hfirst, Run.perform_stop hsecond]
      exact ⟨rfl, rfl, rfl, rfl, [], rfl, rfl⟩
    · rw [Run.perform_next hfirst, Run.perform_next hsecond]
      rw [ProgramOptions.threshold, ProgramOptions.threshold, hlevel, hl]
      exact h.perform_logged hloaded level level'

end Apart

/-- The configuration file of a command line. -/
def configFile (args : List String) : Path :=
  match Request.ofArguments args with
  | .command options _ _ => options.configFile
  | _ => Settings.defaultFile

/-- The threshold of the console of a command line. -/
def threshold (args : List String) (env : Environment) (tree : FileTree) : Nat :=
  match Request.ofArguments args with
  | .command options _ _ => options.threshold env tree
  | _ => Level.warning.number

/-- A command line with its file of variables, by which an environment is extended. The level of the
log can be read from the environment as it was before. -/
structure Beside (args : List String) (env extended : Environment) (tree : FileTree) : Prop where
  reads : Settings.extendFrom tree (Settings.variablesFile (configFile args)) env = .ok extended
  level : ∃ level, levelOf env tree = .ok level
  apart : ∀ options c rest, Request.ofArguments args = .command options c rest →
    Apart options c rest env extended tree

theorem Beside.perform_program (h : Beside args env extended tree) :
    let place := (Settings.variablesFile (configFile args)).goal
    let r := (Run.start env tree).perform (program args)
    let s := (Run.start extended (tree.without place)).perform (program args)
    s.1 = r.1 ∧ Alike place (tree.find? place) (threshold args env tree)
      (threshold args extended tree) r.2 s.2 := by
  intro place r s
  have hstart (hpart : Bypasses place (program args)) : s.1 = r.1 ∧
      Alike place (tree.find? place) Level.warning.number Level.warning.number r.2 s.2 :=
    And.imp_right InStep.toAlike (hpart ⟨⟨rfl, rfl, rfl, [], rfl, rfl⟩, rfl, rfl⟩)
  obtain ⟨level, hlevel⟩ := h.level
  have hextended := h.reads
  cases hargs : Request.ofArguments args with
  | refused =>
    simp only [threshold, hargs]
    refine hstart ?_
    simp only [program, hargs]
    exact (bypasses_complain _).next fun _ => bypasses_throw _
  | help =>
    simp only [threshold, hargs]
    refine hstart ?_
    simp only [program, hargs]
    exact bypasses_print _
  | version =>
    simp only [threshold, hargs]
    refine hstart ?_
    simp only [program, hargs]
    exact bypasses_print _
  | command options c rest =>
    simp only [configFile, hargs] at hextended
    simp only [r, s, place, threshold, configFile, program, hargs]
    exact (h.apart options c rest hargs).perform_runCommand hlevel hextended

/-- The fault that has ended a run, if one has. -/
def faultOf : Except Stop Unit → Option Fault
  | .error (.fault f) => some f
  | _ => none

theorem execute_of_perform {outcome : Except Stop Unit}
    (h : (Run.start env tree).perform (program args) = (outcome, r)) :
    execute args env tree = ⟨exitCode outcome, faultOf outcome, r⟩ := by
  have hrun : (ExceptT.run (program args)).run {
      environment := env
      workspace := ⟨tree, .empty⟩
      threshold := Level.warning.number
      output := []
      errors := [] } = (outcome, r) := h
  rw [execute, hrun]
  rcases outcome with (code | f) | _ <;> rfl

/-- A file of variables acts like the environment, but for the messages of the log on the console: a
run with it and one without it, in the environment that it extends, end with the same code and the
same fault, print the same and leave the same other files, and of the same trail of trouble each
shows what the threshold of the environment in which it began lets it. -/
theorem execute_without (h : Beside args env extended tree) :
    let place := (Settings.variablesFile (configFile args)).goal
    let r := execute args env tree
    let s := execute args extended (tree.without place)
    s.code = r.code ∧ s.fault = r.fault ∧
      Alike place (tree.find? place) (threshold args env tree) (threshold args extended tree)
        r.run s.run ∧
      (threshold args env tree = threshold args extended tree → s.run.errors = r.run.errors) := by
  intro place r s
  obtain ⟨hends, halike⟩ := h.perform_program
  rcases hr : (Run.start env tree).perform (program args) with ⟨outcome, r'⟩
  rcases hs : (Run.start extended (tree.without place)).perform (program args) with ⟨outcome', s'⟩
  rw [hr, hs] at hends halike
  obtain rfl : outcome' = outcome := hends
  simp only [r, s, execute_of_perform hr, execute_of_perform hs]
  refine ⟨trivial, trivial, halike, fun hsame => ?_⟩
  obtain ⟨trail, hfirst, hsecond⟩ := halike.errors
  rw [hsecond, ← hsame, ← hfirst]

namespace Sample

/-- A page with a file of variables that make builds strict and the log quiet. -/
def variablesTree : FileTree := project ".env" "DOCREF_STRICT=true\nLOG_LEVEL=ERROR\n"

/-- The environment that has these variables. -/
def quietEnvironment : Environment := ⟨[("DOCREF_STRICT", "true"), ("LOG_LEVEL", "ERROR")]⟩

theorem loaded_variables : loaded ⟨[]⟩ variablesTree Settings.defaultFile =
    .ok ((settings none none).withStrict true) := by
  decide +kernel

theorem apart_variables :
    Apart ⟨false, none, false⟩ .check [] ⟨[]⟩ quietEnvironment variablesTree where
  configFile := by decide
  asks name hname entries hentries := by
    have hbuild : Settings.part quietEnvironment "build" = .ok .unset := rfl
    have happ : Settings.part quietEnvironment "app" = .ok .unset := rfl
    rcases List.mem_pair.mp hname with rfl | rfl
    · cases hbuild.symm.trans hentries
    · cases happ.symm.trans hentries
  directory hlog := by cases hlog
  logFile s p hs hp := by
    cases loaded_variables.symm.trans hs
    cases hp
  paths s o hs ho := by
    cases loaded_variables.symm.trans hs
    cases (ofArguments_strictFlag false none).symm.trans ho
    refine ⟨by decide +kernel, by decide +kernel, fun below hbelow => ?_⟩
    have hplace : (Settings.variablesFile Settings.defaultFile).goal = [".env"] := by decide +kernel
    have hroot : (settings none none).contentRoot.goal = ["documentation"] := by decide +kernel
    have hnames : [".env"] = ["documentation"] ++ below := hplace ▸ hroot ▸ hbelow
    simp at hnames
  report o p ho hp := by
    cases (ofArguments_strictFlag false none).symm.trans ho
    cases hp

end Sample

theorem execute_without_sample :
    let first := execute ["check"] ⟨[]⟩ Sample.variablesTree
    let second := execute ["check"] Sample.quietEnvironment (Sample.variablesTree.without [".env"])
    Beside ["check"] ⟨[]⟩ Sample.quietEnvironment Sample.variablesTree ∧
      second.code = first.code ∧ second.fault = first.fault ∧
      Alike [".env"] (some (.file (Text.Utf8.encode "DOCREF_STRICT=true\nLOG_LEVEL=ERROR\n".toList)))
        30 40 first.run second.run := by
  have hargs : Request.ofArguments ["check"] = .command ⟨false, none, false⟩ .check [] := by
    decide +kernel
  have hbeside : Beside ["check"] ⟨[]⟩ Sample.quietEnvironment Sample.variablesTree := {
    reads := by decide +kernel
    level := ⟨some .info, by decide +kernel⟩
    apart := fun options c rest h => by
      cases hargs.symm.trans h
      exact Sample.apart_variables }
  have hplace : (Settings.variablesFile (configFile ["check"])).goal = [".env"] := by decide +kernel
  have hfirst : threshold ["check"] ⟨[]⟩ Sample.variablesTree = 30 := by decide +kernel
  have hsecond : threshold ["check"] Sample.quietEnvironment Sample.variablesTree = 40 := by
    decide +kernel
  obtain ⟨hcode, hfault, halike, -⟩ := execute_without hbeside
  rw [hplace] at hcode hfault halike
  rw [hfirst, hsecond] at halike
  exact ⟨hbeside, hcode, hfault, halike⟩

/-- The file of variables asks for errors only. Its environment does not show the warning that a
page has no identity; the console, whose level was read before the file, does. -/
theorem variablesFile_comes_late :
    let first := execute ["check"] ⟨[]⟩ Sample.variablesTree
    let second := execute ["check"] Sample.quietEnvironment (Sample.variablesTree.without [".env"])
    Settings.extendFrom Sample.variablesTree (Settings.variablesFile (configFile ["check"])) ⟨[]⟩ =
        .ok Sample.quietEnvironment ∧
      first.run.errors = ["WARNING  documentation/a.md declares no globalReference"] ∧
      second.run.errors = [] := by
  refine ⟨?_, ?_, ?_⟩ <;> decide +kernel

end Crosslink.CommandLine
