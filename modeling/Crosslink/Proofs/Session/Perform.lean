import Crosslink.Session.Registration
import Crosslink.Session.Resolution

/-!
# Performing actions

How the basic actions of a session end and what they leave, and how a sequence of actions
is composed of its parts. `Session.Gives` states all of this but the log: no action reads
the log, so outcomes, registries and issues are followed without it.
-/

namespace Crosslink

/-- Report several issues, one after the other. -/
def IssueLog.addAll (log : IssueLog) (is : List Issue) : IssueLog := is.foldl IssueLog.add log

@[simp] theorem IssueLog.addAll_nil (log : IssueLog) : log.addAll [] = log := rfl

theorem IssueLog.addAll_append (log : IssueLog) (is js : List Issue) :
    log.addAll (is ++ js) = (log.addAll is).addAll js := List.foldl_append

/-- The issues of a page are those it had and those of the page that were reported since. -/
theorem IssueLog.forFile_addAll (log : IssueLog) (is : List Issue) (file : Path) :
    (log.addAll is).forFile file =
      log.forFile file ++ is.filter (fun i => decide (i.sourceFile = file)) := by
  induction is generalizing log with
  | nil => simp
  | cons i is ih =>
    have hstep : log.addAll (i :: is) = (log.add i).addAll is := rfl
    rw [hstep, ih, IssueLog.forFile_add, List.filter_cons]
    by_cases h : i.sourceFile = file <;> simp [h]

/-- A sequence goes on where its first part ends, and stops with the failure of that part. -/
theorem run_bind {ε σ α β : Type} (s : σ) (x : ExceptT ε (StateM σ) α)
    (f : α → ExceptT ε (StateM σ) β) :
    (ExceptT.run (x >>= f)).run s = match (ExceptT.run x).run s with
      | (.ok a, t) => (ExceptT.run (f a)).run t
      | (.error e, t) => (.error e, t) := by
  simp only [ExceptT.run_bind, StateT.run_bind]
  change (match StateT.run (ExceptT.run x) s with | (a, t) => _) = _
  rcases StateT.run (ExceptT.run x) s with ⟨a | a, t⟩ <;> rfl

namespace Session

variable {α β : Type}

@[simp] theorem perform_pure (s : Session) (a : α) : s.perform (pure a) = (.ok a, s) := rfl

theorem perform_bind (s : Session) (x : Action α) (f : α → Action β) :
    s.perform (x >>= f) = match s.perform x with
      | (.ok a, t) => t.perform (f a)
      | (.error e, t) => (.error e, t) := by
  rw [perform, run_bind, perform]
  rcases StateT.run (ExceptT.run x) s with ⟨a | a, t⟩ <;> rfl

@[simp] theorem perform_get (s : Session) : s.perform (get : Action Session) = (.ok s, s) := rfl

theorem perform_require (s : Session) (x : Except Error α) :
    s.perform (require x) = (x.mapError .error, s) := by cases x <;> rfl

theorem perform_obtain (s : Session) (x : Except Fault α) :
    s.perform (obtain x) = (x.mapError .fault, s) := by cases x <;> rfl

/-- A change of an open registry or the failure it meets. -/
theorem perform_changeRegistry (s : Session) (f : Registry → Except Error (α × Registry)) :
    s.perform (changeRegistry f) = match f s.registry with
      | .ok (a, registry) => (.ok a, { s with registry })
      | .error e => (.error (.error e), s) := by
  rw [changeRegistry, perform_bind, perform_get]
  simp only [perform_bind, perform_require]
  rcases f s.registry with e | ⟨a, registry⟩ <;> rfl

/-- How a build goes on after its issues: one of them ends a strict build. -/
def verdict (strict : Bool) : List Issue → Except Failure Unit
  | [] => .ok ()
  | i :: _ => if strict then .error (.error (.buildAborted i)) else .ok ()

@[simp] theorem verdict_permissive (is : List Issue) : verdict false is = .ok () := by
  cases is <;> rfl

theorem verdict_eq_ok_iff {strict : Bool} {is : List Issue} :
    verdict strict is = .ok () ↔ (strict = true → is = []) := by
  cases is <;> cases strict <;> simp [verdict]

/-- A build that ends does so with the first issue. -/
theorem verdict_eq_error_iff {strict : Bool} {is : List Issue} {f : Failure} :
    verdict strict is = .error f ↔
      strict = true ∧ ∃ i, is.head? = some i ∧ f = .error (.buildAborted i) := by
  cases is <;> cases strict <;> simp [verdict, eq_comm]

/-- The action ends with the outcome and leaves the registry and the issues; what it writes to
the log is left open. -/
def Gives (s : Session) (action : Action α) (outcome : Except Failure α) (registry : Registry)
    (issues : IssueLog) : Prop :=
  ∃ log, s.perform action = (outcome, ⟨registry, issues, log⟩)

namespace Gives

variable {s : Session} {registry registry' : Registry} {issues issues' : IssueLog}

/-- A sequence goes on from what its first part leaves. -/
theorem bind {x : Action α} {f : α → Action β} {a : α} {outcome : Except Failure β}
    (h : s.Gives x (.ok a) registry issues)
    (hf : ∀ log, Gives ⟨registry, issues, log⟩ (f a) outcome registry' issues') :
    s.Gives (x >>= f) outcome registry' issues' := by
  obtain ⟨log, h⟩ := h
  obtain ⟨log', hf⟩ := hf log
  refine ⟨log', ?_⟩
  rw [perform_bind, h]
  exact hf

/-- A sequence whose first part fails ends there. -/
theorem bind_error {x : Action α} {f : α → Action β} {e : Failure}
    (h : s.Gives x (.error e) registry issues) :
    s.Gives (x >>= f) (.error e) registry issues := by
  obtain ⟨log, h⟩ := h
  exact ⟨log, by rw [perform_bind, h]⟩

/-- What is read is the session at hand. -/
theorem get_bind {f : Session → Action β} {outcome : Except Failure β}
    (h : s.Gives (f s) outcome registry issues) :
    s.Gives (get >>= f) outcome registry issues := by
  obtain ⟨log, h⟩ := h
  refine ⟨log, ?_⟩
  rw [perform_bind, perform_get]
  exact h

end Gives

theorem gives_pure (s : Session) (a : α) : s.Gives (pure a) (.ok a) s.registry s.issues :=
  ⟨s.log, rfl⟩

theorem gives_say (s : Session) (level : Level) (text : String) :
    s.Gives (say level text) (.ok ()) s.registry s.issues := ⟨_, rfl⟩

/-- Messages change nothing but the log. -/
theorem gives_forM_say (s : Session) (level : Level) (text : α → String) (xs : List α) :
    s.Gives (xs.forM fun x => say level (text x)) (.ok ⟨⟩) s.registry s.issues := by
  induction xs generalizing s with
  | nil => exact gives_pure s ()
  | cons x xs ih =>
    change s.Gives (say level (text x) >>= fun _ => xs.forM _) _ _ _
    exact (gives_say s level (text x)).bind fun log => ih ⟨s.registry, s.issues, log⟩

/-- A reported issue is recorded, whether or not it ends the build. -/
theorem gives_report (s : Session) (strict : Bool) (i : Issue) :
    s.Gives (report strict i) (verdict strict [i]) s.registry (s.issues.add i) := by
  cases strict <;> exact ⟨_, rfl⟩

end Session

end Crosslink
