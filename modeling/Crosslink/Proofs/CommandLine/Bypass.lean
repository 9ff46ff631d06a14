import Crosslink.Proofs.Build.Bypass
import Crosslink.Proofs.CommandLine.Parts

/-!
# Runs beside a hidden file

Two runs go side by side, one of them in the tree without what stands in a certain place. As long as
no path leads over that place, they end alike, print the same and change the same files. What they
complain of is the same as well, but each shows as much of the log as its own threshold lets it.
-/

namespace Crosslink.CommandLine

open FileTree

variable {α β : Type} {place : List String} {entry : Option Entry} {t u : Nat} {r s : Run}

/-- What comes among the lines of trouble: lines, or a message of the log. -/
inductive Trouble where
  | lines (lines : List String)
  | message (m : Message)
  deriving DecidableEq, Repr

/-- The lines of trouble that are shown at a threshold. -/
def shown (threshold : Nat) (trail : List Trouble) : List String :=
  trail.flatMap fun
    | .lines lines => lines
    | .message m => if threshold ≤ m.level.number then Console.logLines m else []

theorem shown_append (trail more : List Trouble) :
    shown t (trail ++ more) = shown t trail ++ shown t more := List.flatMap_append

theorem shown_lines (lines : List String) : shown t [.lines lines] = lines := by simp [shown]

theorem shown_messages (log : List Message) :
    shown t (log.map .message) =
      (log.filter fun m => t ≤ m.level.number).flatMap Console.logLines := by
  induction log with
  | nil => rfl
  | cons m rest ih =>
    rw [shown] at ih ⊢
    rw [List.map_cons, List.flatMap_cons, ih, List.filter_cons]
    by_cases h : t ≤ m.level.number <;> simp [h]

/-- Two runs that have printed the same, the second in the tree without the entry of a place. Of one
trail of trouble each has shown what its threshold lets it. -/
structure Alike (place : List String) (entry : Option Entry) (t u : Nat) (r s : Run) : Prop where
  workspace : s.workspace = r.workspace.without place
  kept : r.workspace.tree.find? place = entry
  output : s.output = r.output
  errors : ∃ trail, r.errors = shown t trail ∧ s.errors = shown u trail

/-- Runs that are alike and go on with these thresholds. -/
structure InStep (place : List String) (entry : Option Entry) (t u : Nat) (r s : Run) : Prop
    extends Alike place entry t u r s where
  threshold : r.threshold = t ∧ s.threshold = u

theorem Alike.session (h : Alike place entry t u r s) :
    s.workspace.session = r.workspace.session := by
  rw [h.workspace]
  rfl

/-- A part takes runs that are in step to the same outcome, and leaves them in step. -/
def Bypasses (place : List String) (part : Part α) : Prop :=
  ∀ ⦃entry : Option Entry⦄ ⦃t u : Nat⦄ ⦃r s : Run⦄, InStep place entry t u r s →
    (s.perform part).1 = (r.perform part).1 ∧
      InStep place entry t u (r.perform part).2 (s.perform part).2

theorem bypasses_pure (a : α) : Bypasses place (pure a : Part α) := fun _ _ _ _ _ h => ⟨rfl, h⟩

theorem bypasses_throw (e : Stop) : Bypasses place (throw e : Part α) :=
  fun _ _ _ _ _ h => ⟨rfl, h⟩

theorem Bypasses.next {x : Part α} {f : α → Part β} (hx : Bypasses place x)
    (hf : ∀ a, Bypasses place (f a)) : Bypasses place (x >>= f) := by
  intro entry t u r s h
  obtain ⟨hsame, hstep⟩ := hx h
  rw [Run.perform_bind, Run.perform_bind]
  rcases hr : r.perform x with ⟨e | a, r'⟩ <;> rcases hs : s.perform x with ⟨e' | a', s'⟩ <;>
    rw [hr, hs] at hsame hstep <;> cases hsame
  · exact ⟨rfl, hstep⟩
  · exact hf a hstep

/-- What follows a look at the run must depend on its session alone. -/
theorem bypasses_get {f : Run → Part β}
    (hsame : ∀ r s : Run, s.workspace.session = r.workspace.session → f s = f r)
    (hf : ∀ r, Bypasses place (f r)) : Bypasses place (get >>= f) := by
  intro entry t u r s h
  have hget (q : Run) : q.perform (get >>= f) = q.perform (f q) := rfl
  rw [hget, hget, hsame r s h.session]
  exact hf r h

theorem bypasses_print (lines : List String) : Bypasses place (print lines) :=
  fun _ _ _ _ _ h => ⟨rfl, { h with output := congrArg (· ++ lines) h.output }⟩

theorem bypasses_complain (lines : List String) : Bypasses place (complain lines) := by
  intro entry t u r s h
  obtain ⟨trail, hr, hs⟩ := h.errors
  refine ⟨rfl, { h with errors := ⟨trail ++ [.lines lines], ?_, ?_⟩ }⟩
  · rw [shown_append, shown_lines, ← hr]
    rfl
  · rw [shown_append, shown_lines, ← hs]
    rfl

theorem bypasses_changeTree {change : FileTree → FileTree × Except Fault α}
    (h : FileTree.Bypasses place change) : Bypasses place (changeTree change) := by
  intro entry t u r s hrs
  obtain ⟨hsame, hkept⟩ := h r.workspace.tree
  have hchange : change s.workspace.tree =
      ((change r.workspace.tree).1.without place, (change r.workspace.tree).2) := by
    rw [hrs.workspace]
    exact hsame
  refine ⟨congrArg (fun c => c.2.mapError Stop.fault) hchange,
    { hrs with workspace := ?_, kept := hkept.trans hrs.kept }⟩
  change Workspace.mk (change s.workspace.tree).1 s.workspace.session = _
  rw [hchange, hrs.session]
  rfl

theorem Run.perform_performJob (r : Run) (job : Job α) :
    r.perform (performJob job) = (.ok (r.workspace.perform job).1,
      { r with
        workspace := afterJob r.workspace job
        errors := r.errors ++
          shown r.threshold ((r.workspace.perform job).2.session.log.map .message) }) := by
  rw [shown_messages]
  rfl

/-- Of the log of a job, each run shows what its threshold lets it. -/
theorem bypasses_performJob {job : Job α} (h : Build.Bypasses place job) :
    Bypasses place (performJob job) := by
  intro entry t u r s hrs
  obtain ⟨hsame, hkept⟩ := h r.workspace
  obtain ⟨trail, hr, hs⟩ := hrs.errors
  obtain ⟨ht, hu⟩ := hrs.threshold
  rw [← hrs.workspace] at hsame
  rw [Run.perform_performJob, Run.perform_performJob, hsame, hr, hs, ht, hu]
  refine ⟨rfl, { hrs with
    workspace := ?_
    kept := hkept.trans hrs.kept
    errors := ⟨trail ++ (r.workspace.perform job).2.session.log.map .message,
      (shown_append ..).symm, (shown_append ..).symm⟩
    threshold := ⟨rfl, rfl⟩ }⟩
  change afterJob s.workspace job = (afterJob r.workspace job).without place
  rw [afterJob, hsame]
  rfl

theorem bypasses_requireJob {job : Job α} (h : Build.Bypasses place job) :
    Bypasses place (requireJob job) := by
  refine (bypasses_performJob h).next fun outcome => ?_
  rcases outcome with (e | f) | a
  · exact (bypasses_complain _).next fun _ => bypasses_throw _
  · exact bypasses_throw _
  · exact bypasses_pure a

/-! ## Commands -/

/-- The paths of a build do not have the name in them, and a search from the content root does not
end at the length of the place. -/
structure Avoids (name : String) (place : List String) (settings : Settings) : Prop where
  root : name ∉ settings.contentRoot.segments
  out : name ∉ settings.outputDir.segments
  short : ∀ below, place = settings.contentRoot.goal ++ below →
    isTooLong (settings.contentRoot.join ⟨.relative, below⟩) = false

section Commands

variable {name : String} (hname : name ∈ place) (hhidden : isHidden name = true) (hup : name ≠ "..")

include hname hup

theorem bypasses_writeReport (result : BuildResult) {file : Path} (hfile : name ∉ file.segments) :
    Bypasses place (writeReport result file) := by
  refine (bypasses_changeTree fun tree => ?_).next fun _ => bypasses_print _
  obtain ⟨hsame, hkept⟩ := bypasses_plant hname hup hfile
    (Text.Utf8.encode (Json.render true result.toJson ++ "\n").toList) tree
  simp only at hsame hkept
  rw [hsame]
  exact ⟨rfl, hkept⟩

theorem bypasses_showResult (result : BuildResult) (wrote : Bool) {report : Option Path}
    (hreport : ∀ file, report = some file → name ∉ file.segments) :
    Bypasses place (showResult result wrote report) := by
  refine (bypasses_print _).next fun _ => (bypasses_complain _).next fun _ => ?_
  cases report with
  | none => exact bypasses_pure ()
  | some file => exact bypasses_writeReport hname hup result (hreport file rfl)

include hhidden

theorem bypasses_runBuild {settings : Settings} (h : Avoids name place settings) (write : Bool) :
    Bypasses place (runBuild settings write) :=
  (bypasses_print _).next fun _ =>
    bypasses_requireJob (Build.bypasses_run hname hup hhidden h.root h.short h.out write)

/-- Commands do not see a hidden file that their paths do not lead over. -/
theorem bypasses_run {settings : Settings} (h : Avoids name place settings) {o : CommandOptions}
    (hreport : ∀ file, o.report = some file → name ∉ file.segments) (c : Command) :
    Bypasses place (c.run settings o) := by
  cases c with
  | build =>
    refine (bypasses_runBuild hname hhidden hup h true).next fun result => ?_
    refine (bypasses_showResult hname hup result true hreport).next fun _ => ?_
    cases result.ok <;> exact bypasses_print _
  | check =>
    refine (bypasses_runBuild hname hhidden hup h false).next fun result => ?_
    refine (bypasses_showResult hname hup result false hreport).next fun _ => ?_
    cases result.ok with
    | true => exact bypasses_print _
    | false => exact (bypasses_throw _).next fun _ => bypasses_print _
  | refs =>
    have hlist (json : Bool) : Bypasses place (do
        let _ ← requireJob (Build.registerOnly settings)
        let records := (← get).workspace.session.registry.sorted
        print (if json then Console.registryJson records else Console.registryTable records)) := by
      refine (bypasses_requireJob
        (Build.bypasses_registerOnly hname hup hhidden h.root h.short)).next fun _ => ?_
      exact bypasses_get (fun r s hrs => by rw [hrs]) fun _ => bypasses_print _
    rw [Command.run, refs]
    cases o.json with
    | true => exact hlist true
    | false => exact (bypasses_print _).next fun _ => hlist false

end Commands

end Crosslink.CommandLine
