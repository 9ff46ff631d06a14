import Crosslink.Proofs.Build.Plan
import Crosslink.Proofs.Session.Agreement

/-!
# Builds after other builds

A session that earlier phases have left, whether they were completed or not, may hold records of
earlier generations, an open registry and issues. Its registry is sound all the same, and that
is all the next build needs to come to what a build on a fresh session comes to.
-/

namespace Crosslink.Build

/-- Something that is done with a session before a build. -/
inductive Phase (settings : Settings)
  /-- A whole build of some tree, from given paths or from all content files. -/
  | run (tree : FileTree) (paths : Option (List Path)) (write : Bool)
      (σ : Scheduler settings.policy settings.workers)
  /-- The registration of pages. -/
  | register (pages : List Page)
  /-- The resolution of the links of pages against the registry as it is. -/
  | resolve (pages : List Page) (σ : Scheduler settings.policy settings.workers)

/-- The session after a phase, however the phase ends. Without workers no link is touched. -/
def Phase.after {settings : Settings} (s : Session) : Phase settings → Session
  | .run tree paths write σ =>
    (Workspace.perform ⟨tree, s⟩ (runWith σ.resolve settings paths write)).2.session
  | .register pages => (s.perform (registerAll settings.policy pages)).2
  | .resolve pages σ => if settings.workers = 0 then s else (s.perform (σ.resolve pages)).2

/-- The session after a history of phases. -/
def history {settings : Settings} (s : Session) (phases : List (Phase settings)) : Session :=
  phases.foldl Phase.after s

variable {settings : Settings} {tree : FileTree} {paths : List Path}

theorem Prepares.sound {r r' : Registry} {issues : IssueLog}
    {outcome : Except Failure (Loaded × List (Page × PageReport))} (hr : r.Sound)
    (h : Prepares settings tree r paths outcome r' issues) : r'.Sound := by
  cases h with
  | unloaded _ => exact hr
  | unregistered _ _ => exact Registered.sound_all _ _ hr
  | resolved _ _ hregistry _ hresolve =>
    rw [hresolve.registry, hregistry]
    exact Registered.sound_all _ _ hr

/-- A build keeps the registry sound, however it ends. -/
theorem Builds.sound {write : Bool} {r r' : Registry} {tree' : FileTree} {issues : IssueLog}
    {outcome : Except Failure BuildResult} (hr : r.Sound)
    (h : Builds settings write tree r paths outcome tree' r' issues) : r'.Sound := by
  cases h with
  | stopped hprepare => exact hprepare.sound hr
  | published hprepare => exact hprepare.sound hr

/-- Without given paths a build is one from the content files, if there are any. -/
theorem perform_runWith_none (w : Workspace)
    (resolve : List Page → Action (List (Page × PageReport))) (write : Bool) :
    w.perform (runWith resolve settings none write) =
      match discover w.tree settings.contentRoot settings.extensions with
      | .ok found => w.perform (runWith resolve settings (some found) write)
      | .error f => (.error f, w) := by
  have hfiles : w.perform (files settings) =
      (discover w.tree settings.contentRoot settings.extensions, w) := by
    change w.perform (get >>= fun v => require _) = _
    rw [Workspace.perform_bind]
    change w.perform (require (discover w.tree settings.contentRoot settings.extensions)) = _
    cases discover w.tree settings.contentRoot settings.extensions <;> rfl
  have hrun : w.perform (runWith resolve settings none write) =
      w.perform (files settings >>= fun found => runWith resolve settings (some found) write) := rfl
  rw [hrun, Workspace.perform_bind, hfiles]
  cases discover w.tree settings.contentRoot settings.extensions <;> rfl

/-- Every phase keeps the registry sound. -/
theorem Phase.sound {s : Session} (h : s.registry.Sound) (phase : Phase settings) :
    (phase.after s).registry.Sound := by
  cases phase with
  | run tree paths write σ =>
    cases paths with
    | some paths => exact (builds σ ⟨tree, s⟩ paths write).sound h
    | none =>
      rw [after, perform_runWith_none]
      cases discover tree settings.contentRoot settings.extensions with
      | ok found => exact (builds σ ⟨tree, s⟩ found write).sound h
      | error f => exact h
  | register pages =>
    obtain ⟨log, hregister⟩ := Session.gives_registerAll settings.policy pages s
    rw [after, hregister]
    exact Registered.sound_all _ _ h
  | resolve pages σ =>
    rw [after]
    split
    · exact h
    · rename_i hw
      rw [(σ.follows (Nat.pos_of_ne_zero hw) pages s).registry]
      exact h

/-- No history of phases leaves an unsound registry. -/
theorem sound_history {s : Session} (h : s.registry.Sound) (phases : List (Phase settings)) :
    (history s phases).registry.Sound := by
  induction phases generalizing s with
  | nil => exact h
  | cons phase rest ih => exact ih (phase.sound h)

section Fresh

variable {a b : Registry}

/-- What becomes of a page does not depend on the dates of records. -/
theorem resolution_congr {x y : Registered} (hissues : x.issues = y.issues)
    (h : ∀ id, (x.registry.get? id).map Record.undated = (y.registry.get? id).map Record.undated)
    (pages : List Page) : resolution settings x pages = resolution settings y pages := by
  refine List.map_congr_left fun p _ => ?_
  simp only [hissues, Page.outcome, Page.resolved, Page.linksAfter, Page.issues, Page.issuesOf,
    Page.rewritten, Page.rewrittenAmong, Resolution.fate_congr h]

theorem linkIssues_congr
    (h : ∀ id, (a.get? id).map Record.undated = (b.get? id).map Record.undated)
    (pages : List Page) : linkIssues settings a pages = linkIssues settings b pages := by
  simp only [linkIssues, Page.issues, Page.issuesOf, Resolution.fate_congr h]

/-- The plan of a build is the same on all sound registries. -/
theorem plan_congr (ha : a.Sound) (hb : b.Sound) :
    plan settings tree a paths = plan settings tree b paths := by
  rw [plan, plan]
  cases loads settings tree paths with
  | error f => rfl
  | ok loaded =>
    obtain ⟨houtcome, hissues, hrecords⟩ :=
      Registered.all_congr ha hb settings.policy loaded.pages
    simp only [registration, houtcome]
    cases hr : (Registered.all settings.policy loaded.pages b).outcome with
    | error f => rfl
    | ok _ =>
      simp only [linkIssues_congr (hrecords hr), resolution_congr hissues (hrecords hr)]

/-- What is left of phases that went through is the same on all sound registries, but for the
dates of records. -/
theorem Prepared.congr (ha : a.Sound) (hb : b.Sound) (hn : ∀ p ∈ paths, p.IsNormal)
    {loaded : Loaded} {resolved : List (Page × PageReport)} {ra rb : Registry} {is js : IssueLog}
    (h : Prepared settings tree a paths loaded resolved ra is)
    (h' : Prepared settings tree b paths loaded resolved rb js) :
    is.issues = js.issues ∧
      (ra.records.map Record.undated).Perm (rb.records.map Record.undated) := by
  obtain ⟨-, hissues, hrecords⟩ := Registered.all_congr ha hb settings.policy loaded.pages
  have hrecords' := hrecords h'.registers
  constructor
  · refine IssueLog.issues_congr (fun file hf => hn file (h.mem_paths hf)) fun file => ?_
    rw [h.issues, h'.issues, hissues, linkIssues_congr hrecords']
  · rw [h.registry, h'.registry]
    exact Registry.perm_undated (Registered.sound_all _ _ ha) (Registered.sound_all _ _ hb)
      hrecords'

/-- Builds of the same paths on sound registries come to the same. -/
theorem Builds.congr (ha : a.Sound) (hb : b.Sound) (hd : paths.Nodup)
    (hn : ∀ p ∈ paths, p.IsNormal) {write : Bool} {x y : Except Failure BuildResult}
    {t u : FileTree} {ra rb : Registry} {is js : IssueLog}
    (h : Builds settings write tree a paths x t ra is)
    (h' : Builds settings write tree b paths y u rb js) :
    x = y ∧ t = u ∧ ∀ result, x = .ok result →
      (ra.records.map Record.undated).Perm (rb.records.map Record.undated) := by
  have hplan : plan settings tree a paths = plan settings tree b paths := plan_congr ha hb
  cases h with
  | stopped hprepare =>
    have hleft := hprepare.eq_plan hd
    cases h' with
    | stopped hprepare' =>
      have hright := hprepare'.eq_plan hd
      obtain rfl := Except.error.inj (hleft.trans (hplan.trans hright.symm))
      exact ⟨rfl, rfl, fun _ hx => by cases hx⟩
    | published hprepare' =>
      have hright := hprepare'.eq_plan hd
      cases hleft.trans (hplan.trans hright.symm)
  | published hprepare =>
    have hleft := hprepare.eq_plan hd
    cases h' with
    | stopped hprepare' =>
      have hright := hprepare'.eq_plan hd
      cases hleft.trans (hplan.trans hright.symm)
    | published hprepare' =>
      have hright := hprepare'.eq_plan hd
      cases hleft.trans (hplan.trans hright.symm)
      obtain ⟨hissues, hrecords⟩ := (hprepare.prepared hd).congr ha hb hn (hprepare'.prepared hd)
      refine ⟨?_, rfl, fun _ _ => hrecords⟩
      have hsummary : ∀ loaded resolved,
          summary loaded resolved is = summary loaded resolved js := by
        intro loaded resolved
        funext files
        rw [summary, summary, hissues]
      rw [hsummary]

end Fresh

/-- A build after any history of phases comes to what it comes to on a fresh session: the same
failure, or the same result, files and records but for their dates. -/
theorem run_after_history (phases : List (Phase settings)) (tree : FileTree)
    (hd : paths.Nodup) (hn : ∀ p ∈ paths, p.IsNormal) (write : Bool)
    (σ σ' : Scheduler settings.policy settings.workers) :
    let later := Workspace.perform ⟨tree, history .empty phases⟩
      (runWith σ.resolve settings (some paths) write)
    let fresh := Workspace.perform ⟨tree, .empty⟩ (runWith σ'.resolve settings (some paths) write)
    later.1 = fresh.1 ∧ later.2.tree = fresh.2.tree ∧
      ∀ result, later.1 = .ok result →
        (later.2.session.registry.records.map Record.undated).Perm
          (fresh.2.session.registry.records.map Record.undated) := by
  intro later fresh
  exact (builds σ ⟨tree, history .empty phases⟩ paths write).congr
    (sound_history Registry.Sound.empty phases) Registry.Sound.empty hd hn
    (builds σ' ⟨tree, .empty⟩ paths write)

/-- A build of the pages in another order, one of no files, and a registration without pages. -/
def Sample.phases : List (Phase Sample.settings) :=
  [.run Sample.tree (some Sample.paths.reverse) true (.sequential _ _),
    .run .empty none true (.sequential _ _), .register []]

theorem run_after_history_sample :
    (Workspace.perform ⟨Sample.tree, history .empty Sample.phases⟩
      (run Sample.settings (some Sample.paths) true)).1 =
    (Workspace.perform ⟨Sample.tree, .empty⟩ (run Sample.settings (some Sample.paths) true)).1 := by
  have hd : Sample.paths.Nodup := by decide
  have hn : ∀ p ∈ Sample.paths, p.IsNormal := by decide
  exact (run_after_history Sample.phases Sample.tree hd hn true (.sequential _ _)
    (.sequential _ _)).1

end Crosslink.Build
