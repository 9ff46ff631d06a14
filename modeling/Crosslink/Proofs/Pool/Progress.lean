import Crosslink.Proofs.Pool.Basic

/-!
# Progress of a pool

No order of steps gets stuck, and none goes on without end. A step that changes the pool takes
work away; while some page is not settled and there are workers, such a step can be made; and
pages are given up behind a failure only, so a pool whose pages are all settled has an outcome.
-/

namespace Crosslink

namespace Task

/-- The number of steps that are left to make. -/
def work : Task → Nat
  | .waiting page => page.links.length + 2
  | .running _ _ todo _ => todo.length + 1
  | _ => 0

/-- The number of steps that are left on all tasks. -/
def workAmong : List Task → Nat
  | [] => 0
  | t :: rest => t.work + workAmong rest

theorem workAmong_append (ts us : List Task) :
    workAmong (ts ++ us) = workAmong ts + workAmong us := by
  induction ts with
  | nil => simp [workAmong]
  | cons t rest ih =>
    simp only [List.cons_append, workAmong, ih]
    omega

/-- No page is given up before the first failure. -/
def Excused : List Task → Prop
  | [] => True
  | .failed _ :: _ => True
  | .cancelled :: _ => False
  | _ :: rest => Excused rest

variable {policy : Policy}

/-- A worker's step takes work away. -/
theorem work_advance_lt (policy : Policy) (s : Session) {t : Task} (ht : t.isRunning = true) :
    (t.advance policy s).1.work < t.work := by
  cases t with
  | running page done todo n =>
    cases todo with
    | nil => exact Nat.one_pos
    | cons l rest =>
      rw [advance]
      rcases s.perform (Session.resolveTarget policy (.ofString l.url) page.sourceFile l) with
        ⟨f | outcome, s'⟩
      · exact Nat.succ_pos _
      · exact Nat.lt_succ_self _
  | _ => cases ht

/-- A worker does not give its page up. -/
theorem advance_ne_cancelled (policy : Policy) (s : Session) {t : Task}
    (ht : t.isRunning = true) : (t.advance policy s).1 ≠ .cancelled := by
  cases t with
  | running page done todo n =>
    cases todo with
    | nil => simp [advance]
    | cons l rest =>
      rw [advance]
      rcases s.perform (Session.resolveTarget policy (.ofString l.url) page.sourceFile l) with
        ⟨f | outcome, s'⟩ <;> simp
  | _ => cases ht

/-- Giving up waiting pages takes work away, if there are any. -/
theorem map_cancel (tasks : List Task) : tasks.map cancel = tasks ∨
    workAmong (tasks.map cancel) < workAmong tasks := by
  induction tasks with
  | nil => exact .inl rfl
  | cons t rest ih =>
    have hle : workAmong (rest.map cancel) ≤ workAmong rest := by
      rcases ih with h | h
      · exact Nat.le_of_eq (by rw [h])
      · exact Nat.le_of_lt h
    cases t with
    | waiting page =>
      refine .inr ?_
      simp only [List.map_cons, workAmong, cancel, work]
      omega
    | _ =>
      rcases ih with h | h
      · exact .inl (by rw [List.map_cons, h]; rfl)
      · exact .inr (Nat.add_lt_add_left h _)

/-- A page that is not settled may come to anything but being given up. -/
theorem Excused.replace {before after : List Task} {t t' : Task} (ht : t.isSettled = false)
    (ht' : t' ≠ .cancelled) (h : Excused (before ++ t :: after)) :
    Excused (before ++ t' :: after) := by
  induction before with
  | nil =>
    have hafter : Excused after := by
      cases t <;> first | exact h | cases ht
    cases t' <;> first | exact hafter | trivial
  | cons u rest ih => cases u <;> first | exact ih h | trivial

/-- What comes after a failure is excused. -/
theorem excused_of_failed {before : List Task} (f : Failure) (after : List Task)
    (h : ∀ t ∈ before, t.isFinished = true) : Excused (before ++ .failed f :: after) := by
  induction before with
  | nil => trivial
  | cons t rest ih =>
    obtain ⟨ht, hrest⟩ := List.forall_mem_cons.mp h
    cases t <;> first | exact ih hrest | cases ht

/-- Pages that are all settled have an outcome. -/
theorem isSome_collect? {tasks : List Task} (h : Excused tasks)
    (hsettled : ∀ t ∈ tasks, t.isSettled = true) : (collect? tasks).isSome = true := by
  induction tasks with
  | nil => rfl
  | cons t rest ih =>
    obtain ⟨ht, hrest⟩ := List.forall_mem_cons.mp hsettled
    cases t with
    | waiting _ => cases ht
    | running _ _ _ _ => cases ht
    | cancelled => cases h
    | finished page report =>
      rw [collect?, Option.isSome_map]
      exact ih h hrest
    | failed f =>
      rw [collect?, if_pos (List.all_eq_true.mpr hrest)]
      rfl

end Task

namespace Pool

variable {policy : Policy} {workers : Nat}

/-- The number of steps that are left to make on all pages. -/
def work (pool : Pool) : Nat := Task.workAmong pool.tasks

/-- A step changes nothing or takes work away. -/
theorem Step.eq_or_work_lt {a b : Pool} (h : Step policy workers a b) :
    b = a ∨ b.work < a.work := by
  cases h with
  | start _ _ =>
    refine .inr ?_
    simp only [Pool.work, Task.workAmong_append, Task.workAmong, Task.work]
    omega
  | @work before after t s ht =>
    refine .inr ?_
    have hlt := Task.work_advance_lt policy s ht
    simp only [Pool.work, Task.workAmong_append, Task.workAmong]
    omega
  | @cancel before after f s _ =>
    rcases Task.map_cancel after with h | h
    · exact .inl (by rw [h])
    · refine .inr ?_
      simp only [Pool.work, Task.workAmong_append, Task.workAmong]
      omega

theorem Step.excused {a b : Pool} (h : Step policy workers a b) (ha : Task.Excused a.tasks) :
    Task.Excused b.tasks := by
  cases h with
  | start _ _ => exact ha.replace rfl (by simp)
  | @work before after t s ht =>
    have hopen : t.isSettled = false := by simp [Task.isSettled, ht]
    exact ha.replace hopen (Task.advance_ne_cancelled policy s ht)
  | cancel hbefore => exact Task.excused_of_failed _ _ hbefore

theorem excused_start (pages : List Page) (s : Session) : Task.Excused (start pages s).tasks := by
  induction pages with
  | nil => trivial
  | cons page rest ih => exact ih

/-- While a page is not settled, some step takes work away. -/
theorem exists_step (hw : 0 < workers) {a : Pool}
    (h : ∃ t ∈ a.tasks, t.isSettled = false) : ∃ b, Step policy workers a b ∧ b.work < a.work := by
  obtain ⟨tasks, s⟩ := a
  by_cases hrunning : ∃ t ∈ tasks, t.isRunning = true
  · obtain ⟨t, hmem, ht⟩ := hrunning
    obtain ⟨before, after, rfl⟩ := List.append_of_mem hmem
    have hstep : Step policy workers ⟨before ++ t :: after, s⟩ _ := .work ht
    have hlt := Task.work_advance_lt policy s ht
    refine ⟨_, hstep, ?_⟩
    simp only [Pool.work, Task.workAmong_append, Task.workAmong]
    omega
  · -- all workers are free for the first page that waits
    have hidle : ∀ t ∈ tasks, ¬ t.isRunning = true := fun t ht hr => hrunning ⟨t, ht, hr⟩
    obtain ⟨t, hmem, ht⟩ := h
    have hwaits : t.isWaiting = true := by
      simpa [Task.isSettled, hidle t hmem] using ht
    obtain ⟨u, hu⟩ := Option.isSome_iff_exists.mp
      (List.find?_isSome.mpr ⟨t, hmem, hwaits⟩)
    obtain ⟨hwait, before, after, rfl, hfirst⟩ := List.find?_eq_some_iff_append.mp hu
    cases u with
    | waiting page =>
      have hfree : (before ++ after).countP Task.isRunning < workers := by
        rw [List.countP_eq_zero.mpr]
        · exact hw
        · intro t ht
          rcases List.mem_append.mp ht with ht | ht
          · exact hidle t (List.mem_append_left _ ht)
          · exact hidle t (List.mem_append_right _ (List.mem_cons_of_mem _ ht))
      refine ⟨_, .start (fun t ht => by simpa using hfirst t ht) hfree, ?_⟩
      simp only [Pool.work, Task.workAmong_append, Task.workAmong, Task.work]
      omega
    | _ => cases hwait

/-- Whatever steps were made, the work on all pages can be brought to its end. -/
theorem Reaches.resolves (hw : 0 < workers) {pages : List Page} {s : Session} {a : Pool}
    (h : Reaches policy workers (start pages s) a) :
    ∃ outcome b, Reaches policy workers a b ∧ Task.collect? b.tasks = some outcome ∧
      Resolves policy workers pages s outcome b.session := by
  have hexcused : Task.Excused a.tasks := by
    induction h with
    | refl => exact excused_start pages s
    | tail _ hstep ih => exact hstep.excused ih
  induction hn : a.work using Nat.strongRecOn generalizing a with
  | ind n ih =>
    by_cases hopen : ∃ t ∈ a.tasks, t.isSettled = false
    · obtain ⟨b, hstep, hlt⟩ := exists_step hw hopen
      obtain ⟨outcome, c, hreach, hend⟩ :=
        ih b.work (hn ▸ hlt) (h.tail hstep) (hstep.excused hexcused) rfl
      exact ⟨outcome, c, .head hstep hreach, hend⟩
    · have hsettled : ∀ t ∈ a.tasks, t.isSettled = true := fun t ht =>
        Bool.of_not_eq_false fun hne => hopen ⟨t, ht, hne⟩
      obtain ⟨outcome, hcollect⟩ :=
        Option.isSome_iff_exists.mp (Task.isSome_collect? hexcused hsettled)
      exact ⟨outcome, a, .refl, hcollect, a.tasks, h, hcollect⟩

end Pool

end Crosslink
