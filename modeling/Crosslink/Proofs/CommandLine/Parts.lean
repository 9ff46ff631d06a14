import Crosslink.CommandLine.Run
import Crosslink.Proofs.FileTree.Planting
import Crosslink.Proofs.Session.Perform

/-!
# Parts of a run

How the parts of a run end and what they leave of the files and the session. What a run prints,
its environment and the threshold of the console are left open: no part that is considered here
reads them afterwards.
-/

namespace Crosslink.CommandLine

variable {α β : Type}

/-- How a failure of a job ends a run. -/
def stopOf : Failure → Stop
  | .error _ => .exit 1
  | .fault f => .fault f

/-- How a command ends after its build: only a command that writes passes over problems. -/
def verdict (write : Bool) (result : BuildResult) : Except Stop Unit :=
  if write || result.ok then .ok () else .error (.exit 1)

/-- The workspace after a job whose messages have been shown. -/
def afterJob (w : Workspace) (job : Job α) : Workspace :=
  { (w.perform job).2 with session := { (w.perform job).2.session with log := [] } }

/-- The level of the log that an environment asks for; it is left open where settings are not
valid. -/
def levelOf (env : Environment) (tree : FileTree) : Except Stop (Option Level) :=
  match Settings.Variables.ofEnvironment env tree with
  | .ok v => .ok (some v.level)
  | .error (.invalid _) | .error .unreadableVariable => .ok none
  | .error f => .error (.fault f)

/-- The settings that are loaded from an environment and a tree. -/
def loaded (env : Environment) (tree : FileTree) (file : Path) : Except Failure Settings :=
  (Settings.load env tree file none []).2

/-- A value or an error to go on with, or the fault that ends the run. -/
def handedOn : Except Failure α → Except Stop (Except Error α)
  | .ok a => .ok (.ok a)
  | .error (.error e) => .ok (.error e)
  | .error (.fault f) => .error (.fault f)

/-- Open a log file if one is named. -/
def openLog (tree : FileTree) : Option Path → FileTree × Except TreeFault Unit
  | none => (tree, .ok ())
  | some file => Log.openFile tree file

namespace Run

/-- Perform a part of a run: its outcome and the run after it. -/
def perform (r : Run) (part : Part α) : Except Stop α × Run := (ExceptT.run part).run r

theorem perform_bind (r : Run) (x : Part α) (f : α → Part β) :
    r.perform (x >>= f) = match r.perform x with
      | (.ok a, s) => s.perform (f a)
      | (.error e, s) => (.error e, s) := by
  rw [perform, run_bind, perform]
  rcases StateT.run (ExceptT.run x) r with ⟨a | a, s⟩ <;> rfl

/-- The part ends with the outcome and leaves the workspace. -/
def Gives (r : Run) (part : Part α) (outcome : Except Stop α) (workspace : Workspace) : Prop :=
  ∃ s, r.perform part = (outcome, s) ∧ s.workspace = workspace

namespace Gives

variable {r : Run} {w w' : Workspace}

/-- A sequence goes on from what its first part leaves. -/
theorem bind {x : Part α} {f : α → Part β} {a : α} {outcome : Except Stop β}
    (h : r.Gives x (.ok a) w) (hf : ∀ s : Run, s.workspace = w → s.Gives (f a) outcome w') :
    r.Gives (x >>= f) outcome w' := by
  obtain ⟨s, h, hw⟩ := h
  obtain ⟨s', hf, hw'⟩ := hf s hw
  exact ⟨s', by rw [perform_bind, h]; exact hf, hw'⟩

/-- A sequence whose first part fails ends there. -/
theorem bind_error {x : Part α} {f : α → Part β} {e : Stop} (h : r.Gives x (.error e) w) :
    r.Gives (x >>= f) (.error e) w := by
  obtain ⟨s, h, hw⟩ := h
  exact ⟨s, by rw [perform_bind, h], hw⟩

/-- A sequence goes on from the run that its first part leaves. -/
theorem next {s : Run} {x : Part α} {f : α → Part β} {a : α} {outcome : Except Stop β}
    (h : r.perform x = (.ok a, s)) (hf : s.Gives (f a) outcome w) :
    r.Gives (x >>= f) outcome w := by
  obtain ⟨t, hf, hw⟩ := hf
  exact ⟨t, by rw [perform_bind, h]; exact hf, hw⟩

end Gives

variable (r : Run)

theorem gives_pure (a : α) : r.Gives (pure a) (.ok a) r.workspace := ⟨r, rfl, rfl⟩

theorem gives_throw (e : Stop) : r.Gives (throw e : Part α) (.error e) r.workspace := ⟨r, rfl, rfl⟩

/-- What is printed is not in the workspace. -/
theorem gives_print (lines : List String) : r.Gives (print lines) (.ok ()) r.workspace :=
  ⟨_, rfl, rfl⟩

theorem gives_complain (lines : List String) : r.Gives (complain lines) (.ok ()) r.workspace :=
  ⟨_, rfl, rfl⟩

theorem gives_changeTree (change : FileTree → FileTree × Except Fault α) :
    r.Gives (changeTree change) ((change r.workspace.tree).2.mapError .fault)
      { r.workspace with tree := (change r.workspace.tree).1 } := ⟨_, rfl, rfl⟩

/-- A job that fails ends the run. -/
theorem gives_requireJob (job : Job α) :
    r.Gives (requireJob job) ((r.workspace.perform job).1.mapError stopOf)
      (afterJob r.workspace job) := by
  have hjob : r.Gives (performJob job) (.ok (r.workspace.perform job).1)
      (afterJob r.workspace job) := ⟨_, rfl, rfl⟩
  refine hjob.bind fun s hs => ?_
  rw [← hs]
  rcases (r.workspace.perform job).1 with (e | f) | a
  · exact (s.gives_complain _).bind fun t ht => ht ▸ t.gives_throw _
  · exact s.gives_throw _
  · exact s.gives_pure a

theorem perform_requestedLevel :
    r.perform requestedLevel = (levelOf r.environment r.workspace.tree, r) := by
  have hget : r.perform get = (.ok r, r) := rfl
  rw [requestedLevel, perform_bind, hget, levelOf]
  simp only
  rcases Settings.Variables.ofEnvironment r.environment r.workspace.tree with f | v
  · cases f <;> rfl
  · rfl

/-- Errors of the settings are handed on; a fault ends the run. -/
theorem gives_loadSettings (file : Path) :
    r.Gives (loadSettings file) (handedOn (loaded r.environment r.workspace.tree file))
      r.workspace := by
  refine Gives.next (s := r) (a := r) rfl ?_
  change ∃ s, _ ∧ _
  rw [loaded]
  rcases Settings.load r.environment r.workspace.tree file none [] with
    ⟨environment, (e | f) | settings⟩ <;> exact ⟨_, rfl, rfl⟩

/-- Without a wish for a log file, only the one that the settings name is opened. -/
theorem gives_setUpLogging (options : ProgramOptions) (h : options.log = false)
    (level : Option Level) (settings : Except Error Settings) :
    r.Gives (setUpLogging options level settings)
      ((openLog r.workspace.tree (settings.toOption.bind (·.logFile))).2.mapError
        fun f => .fault (.files f))
      { r.workspace with
        tree := (openLog r.workspace.tree (settings.toOption.bind (·.logFile))).1 } := by
  have hfile : r.Gives (logFile? options settings) (.ok (settings.toOption.bind (·.logFile)))
      r.workspace := by
    simp only [logFile?, h, Bool.not_false, Bool.or_true, if_true]
    exact r.gives_pure _
  refine hfile.bind fun s hs => ?_
  rw [← hs]
  have hthreshold (t : Run) : t.Gives (modify fun r => { r with
      threshold := consoleThreshold options.verbose (level.map Level.text) }) (.ok ⟨⟩)
      t.workspace := ⟨_, rfl, rfl⟩
  cases settings.toOption.bind (·.logFile) with
  | none => exact hthreshold s
  | some file =>
    have hopen := s.gives_changeTree fun tree =>
      ((Log.openFile tree file).1, (Log.openFile tree file).2.mapError .files)
    rw [openLog]
    rcases ho : Log.openFile s.workspace.tree file with ⟨tree, f | _⟩ <;>
      simp only [ho] at hopen
    · exact hopen.bind_error
    · exact hopen.bind fun t ht => ht ▸ hthreshold t

theorem gives_runBuild (settings : Settings) (write : Bool) :
    r.Gives (runBuild settings write)
      ((r.workspace.perform (Build.run settings none write)).1.mapError stopOf)
      (afterJob r.workspace (Build.run settings none write)) :=
  (r.gives_print _).bind fun s hs => hs ▸ s.gives_requireJob _

/-- What is shown of a result is not in the workspace, unless a report is wanted. -/
theorem gives_showResult (result : BuildResult) (wrote : Bool) :
    r.Gives (showResult result wrote none) (.ok ()) r.workspace := by
  refine (r.gives_print _).bind fun s hs => ?_
  refine (s.gives_complain _).bind fun t ht => ?_
  rw [← hs, ← ht]
  exact t.gives_pure ()

/-- Without a report, a command ends as its build says and leaves what this leaves. -/
theorem gives_run (settings : Settings) {o : CommandOptions} (h : o.report = none) (write : Bool) :
    r.Gives ((if write then Command.build else .check).run settings o)
      (((r.workspace.perform (Build.run settings none write)).1.mapError stopOf).bind
        (verdict write))
      (afterJob r.workspace (Build.run settings none write)) := by
  have hbuild := r.gives_runBuild settings write
  have hshow (s : Run) (result : BuildResult) (hs : s.workspace = afterJob r.workspace
      (Build.run settings none write)) : s.Gives (showResult result write o.report) (.ok ())
        (afterJob r.workspace (Build.run settings none write)) :=
    h ▸ hs ▸ s.gives_showResult result write
  rcases hr : (r.workspace.perform (Build.run settings none write)).1 with f | result <;>
    rw [hr] at hbuild
  · cases write <;> exact hbuild.bind_error
  cases write with
  | true =>
    refine hbuild.bind fun s hs => (hshow s result hs).bind fun t ht => ?_
    rw [← ht]
    cases result.ok <;> exact t.gives_print _
  | false =>
    refine hbuild.bind fun s hs => (hshow s result hs).bind fun t ht => ?_
    rw [← ht]
    change t.Gives _ (verdict false result) _
    rw [verdict, Bool.false_or]
    cases result.ok with
    | true => exact t.gives_print _
    | false => exact (t.gives_throw (.exit 1)).bind_error

end Run

end Crosslink.CommandLine
