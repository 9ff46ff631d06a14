import Mathlib.Logic.Relation
import Crosslink.Build.Basic
import Crosslink.Proofs.Session.Perform

/-!
# Pools of workers

The second phase by several workers at once. Pages wait in their order until a worker is
free; a worker resolves one link of its page after the other and closes with the report; the
steps of different workers follow each other in any order, and every step acts on the one
shared session. A failure ends the work on its page. Once every page before it is finished,
the pages that still wait may be given up, and work that has begun is brought to its end.

`Pool.Step` is one such step and `Pool.Resolves` a whole phase. A `Scheduler` settles which
steps are made, and every order of steps is the choice of one; making them page by page is the
phase as it runs in one thread.
-/

namespace Crosslink

/-- How far the work on a page has come. -/
inductive Task where
  | waiting (page : Page)
  /-- A worker has settled some links, and counted those it rewrote; others are to do. -/
  | running (page : Page) (done todo : List Link) (rewritten : Nat)
  | finished (page : Page) (report : PageReport)
  | failed (reason : Failure)
  | cancelled

namespace Task

def isWaiting : Task → Bool
  | .waiting _ => true
  | _ => false

def isRunning : Task → Bool
  | .running .. => true
  | _ => false

def isFinished : Task → Bool
  | .finished .. => true
  | _ => false

/-- Is nothing left to do? -/
def isSettled (t : Task) : Bool := !t.isWaiting && !t.isRunning

/-- Give up a page that waits. -/
def cancel : Task → Task
  | .waiting _ => .cancelled
  | t => t

/-- The next step of a worker: one link, or the report when no link is left. -/
def advance (policy : Policy) (s : Session) : Task → Task × Session
  | .running page done (l :: rest) n =>
    match s.perform (Session.resolveTarget policy (Target.ofString l.url) page.sourceFile l) with
    | (.ok outcome, s) =>
      (.running page (done ++ [outcome.link l]) rest (if outcome.isRewritten then n + 1 else n), s)
    | (.error f, s) => (.failed f, s)
  | .running page done [] n =>
    (.finished { page with links := done }
      ⟨page.sourceFile, s.issues.forFile page.sourceFile, n⟩, s)
  | t => (t, s)

/-- What the tasks come to once all are settled: every page with its report, or the failure of
the first page in order that has one. -/
def collect? : List Task → Option (Except Failure (List (Page × PageReport)))
  | [] => some (.ok [])
  | .finished page report :: rest => (collect? rest).map fun r => r.map ((page, report) :: ·)
  | .failed f :: rest => if rest.all isSettled then some (.error f) else none
  | _ :: _ => none

end Task

/-- The work on all pages, in their order, and the session that the workers share. -/
structure Pool where
  tasks : List Task
  session : Session

namespace Pool

/-- One step of a pool with a number of workers. -/
inductive Step (policy : Policy) (workers : Nat) : Pool → Pool → Prop
  /-- A free worker takes the first page that waits. -/
  | start {before after : List Task} {page : Page} {s : Session}
      (hfirst : ∀ t ∈ before, t.isWaiting = false)
      (hfree : (before ++ after).countP Task.isRunning < workers) :
      Step policy workers ⟨before ++ .waiting page :: after, s⟩
        ⟨before ++ .running page [] page.links 0 :: after, s⟩
  /-- Some worker makes its next step. -/
  | work {before after : List Task} {t : Task} {s : Session} (hrunning : t.isRunning = true) :
      Step policy workers ⟨before ++ t :: after, s⟩
        ⟨before ++ (t.advance policy s).1 :: after, (t.advance policy s).2⟩
  /-- After a failure that no page before can still forestall, pages that wait are given up. -/
  | cancel {before after : List Task} {f : Failure} {s : Session}
      (hbefore : ∀ t ∈ before, t.isFinished = true) :
      Step policy workers ⟨before ++ .failed f :: after, s⟩
        ⟨before ++ .failed f :: after.map Task.cancel, s⟩

/-- Any number of steps. -/
abbrev Reaches (policy : Policy) (workers : Nat) : Pool → Pool → Prop :=
  Relation.ReflTransGen (Step policy workers)

/-- The pool in which all pages wait. -/
def start (pages : List Page) (s : Session) : Pool := ⟨pages.map .waiting, s⟩

/-- Some order of steps brings the work on all pages to its end, with an outcome and a
session. -/
def Resolves (policy : Policy) (workers : Nat) (pages : List Page) (s : Session)
    (outcome : Except Failure (List (Page × PageReport))) (s' : Session) : Prop :=
  ∃ tasks, Reaches policy workers (start pages s) ⟨tasks, s'⟩ ∧
    Task.collect? tasks = some outcome

end Pool

/-- A choice of the steps by which a pool of workers resolves pages, whatever the pages and the
session. -/
structure Scheduler (policy : Policy) (workers : Nat) where
  /-- The phase as it goes with these choices. -/
  resolve : List Page → Action (List (Page × PageReport))
  /-- It is made of steps of the pool, provided that there are workers. -/
  follows : 0 < workers → ∀ (pages : List Page) (s : Session),
    Pool.Resolves policy workers pages s (s.perform (resolve pages)).1
      (s.perform (resolve pages)).2

namespace Pool

variable {policy : Policy} {workers : Nat}

/-- A worker left to itself settles its links in order. -/
theorem reaches_links (policy : Policy) (workers : Nat) (page : Page)
    (before after : List Task) (todo : List Link) :
    ∀ (done : List Link) (n : Nat) (s : Session),
      Reaches policy workers ⟨before ++ .running page done todo n :: after, s⟩
        (match s.perform (Session.resolveLinks policy page.sourceFile todo) with
        | (.ok (links, count), s') =>
          ⟨before ++ .running page (done ++ links) [] (n + count) :: after, s'⟩
        | (.error f, s') => ⟨before ++ .failed f :: after, s'⟩) := by
  induction todo with
  | nil =>
    intro done n s
    simpa [Session.resolveLinks] using Relation.ReflTransGen.refl
  | cons l rest ih =>
    intro done n s
    have hstep : Step policy workers ⟨before ++ .running page done (l :: rest) n :: after, s⟩ _ :=
      .work rfl
    refine .head hstep ?_
    rw [Session.resolveLinks, Session.perform_bind, Task.advance]
    rcases s.perform (Session.resolveTarget policy (Target.ofString l.url) page.sourceFile l) with
      ⟨f | outcome, s₁⟩
    · exact .refl
    · have hrest := ih (done ++ [outcome.link l]) (if outcome.isRewritten then n + 1 else n) s₁
      simp only [Session.perform_bind]
      rcases hr : s₁.perform (Session.resolveLinks policy page.sourceFile rest) with
        ⟨f | ⟨links, count⟩, s₂⟩ <;> rw [hr] at hrest
      · exact hrest
      · have hcount : (if outcome.isRewritten then n + 1 else n) + count =
            n + if outcome.isRewritten then count + 1 else count := by
          split <;> omega
        simpa only [Session.perform_pure, List.append_assoc, List.singleton_append, hcount]
          using hrest

/-- When all pages before are finished, a worker is free for the next one. -/
theorem step_start_next (hw : 0 < workers) {before : List Task}
    (hbefore : ∀ t ∈ before, t.isFinished = true) (page : Page) (rest : List Page) (s : Session) :
    Step policy workers ⟨before ++ (page :: rest).map .waiting, s⟩
      ⟨before ++ .running page [] page.links 0 :: rest.map .waiting, s⟩ := by
  have hidle : ∀ t ∈ before ++ rest.map Task.waiting, ¬ t.isRunning = true := by
    intro t ht
    rcases List.mem_append.mp ht with ht | ht
    · have hfin := hbefore t ht
      cases t <;> simp_all [Task.isFinished, Task.isRunning]
    · obtain ⟨p, -, rfl⟩ := List.mem_map.mp ht
      exact Bool.false_ne_true
  refine .start (fun t ht => ?_) ?_
  · have hfin := hbefore t ht
    cases t <;> simp_all [Task.isFinished, Task.isWaiting]
  · rw [List.countP_eq_zero.mpr hidle]
    exact hw

/-- Resolving page after page is an order of steps, whatever the number of workers, when all
pages before are finished. -/
theorem reaches_resolveAll (hw : 0 < workers) (pages : List Page) :
    ∀ (before : List Task) (s : Session), (∀ t ∈ before, t.isFinished = true) →
      ∃ tasks, Reaches policy workers ⟨before ++ pages.map .waiting, s⟩
          ⟨before ++ tasks, (s.perform (Build.resolveAll policy pages)).2⟩ ∧
        Task.collect? tasks = some (s.perform (Build.resolveAll policy pages)).1 := by
  induction pages with
  | nil => exact fun before s _ => ⟨[], .refl, rfl⟩
  | cons page rest ih =>
    intro before s hbefore
    have hstart : Step policy workers _ _ := step_start_next hw hbefore page rest s
    have hlinks := reaches_links policy workers page before (rest.map .waiting) page.links [] 0 s
    rw [Build.resolveAll, Session.resolvePage]
    simp only [Session.perform_bind]
    rcases hl : s.perform (Session.resolveLinks policy page.sourceFile page.links) with
      ⟨f | ⟨links, count⟩, s₁⟩ <;> rw [hl] at hlinks
    · -- the page fails: those that wait are given up
      refine ⟨.failed f :: (rest.map .waiting).map Task.cancel, ?_, ?_⟩
      · exact (Relation.ReflTransGen.head hstart hlinks).tail (.cancel hbefore)
      · simp [Task.collect?, Task.cancel, Task.isSettled, Task.isWaiting, Task.isRunning]
    · -- the page is finished, and the next one is up
      let report : PageReport := ⟨page.sourceFile, s₁.issues.forFile page.sourceFile, count⟩
      have hreport : Step policy workers
          ⟨before ++ .running page ([] ++ links) [] (0 + count) :: rest.map .waiting, s₁⟩
          ⟨before ++ .finished { page with links } report :: rest.map .waiting, s₁⟩ := by
        rw [List.nil_append, Nat.zero_add]
        exact .work (t := .running page links [] count) rfl
      obtain ⟨tasks, hreach, hcollect⟩ := ih (before ++ [.finished { page with links } report]) s₁
        (by
          intro t ht
          rcases List.mem_append.mp ht with ht | ht
          · exact hbefore t ht
          · rw [List.mem_singleton.mp ht]
            rfl)
      simp only [List.append_assoc, List.singleton_append] at hreach
      refine ⟨.finished { page with links } report :: tasks, ?_, ?_⟩
      · have hall := ((Relation.ReflTransGen.head hstart hlinks).tail hreport).trans hreach
        simp only [Session.perform_get, Session.perform_pure]
        rcases hr : s₁.perform (Build.resolveAll policy rest) with ⟨f | others, s₂⟩ <;>
          simpa only [hr] using hall
      · simp only [Task.collect?, hcollect, Session.perform_get, Session.perform_pure]
        rcases s₁.perform (Build.resolveAll policy rest) with ⟨f | others, s₂⟩ <;> rfl

end Pool

/-- Page after page, by one worker at a time. -/
def Scheduler.sequential (policy : Policy) (workers : Nat) : Scheduler policy workers where
  resolve := Build.resolveAll policy
  follows hw pages s := by
    simpa only [Pool.Resolves, Pool.start, List.nil_append] using
      Pool.reaches_resolveAll hw pages [] s (by simp)

/-- Every order of steps that brings the work to its end is the choice of some scheduler. -/
theorem Scheduler.exists_of_resolves {policy : Policy} {workers : Nat} {pages : List Page}
    {s s' : Session} {outcome : Except Failure (List (Page × PageReport))}
    (h : Pool.Resolves policy workers pages s outcome s') :
    ∃ σ : Scheduler policy workers, s.perform (σ.resolve pages) = (outcome, s') := by
  classical
  let resolve : List Page → Action (List (Page × PageReport)) := fun pages' t =>
    if pages' = pages ∧ t = s then (outcome, s') else t.perform (Build.resolveAll policy pages')
  have hresolve : ∀ pages' t, t.perform (resolve pages') =
      if pages' = pages ∧ t = s then (outcome, s')
      else t.perform (Build.resolveAll policy pages') := fun _ _ => rfl
  refine ⟨⟨resolve, fun hw pages' t => ?_⟩, ?_⟩
  · rw [hresolve]
    split
    · rename_i hsame
      obtain ⟨rfl, rfl⟩ := hsame
      exact h
    · exact (Scheduler.sequential policy workers).follows hw pages' t
  · rw [hresolve, if_pos ⟨rfl, rfl⟩]

end Crosslink
