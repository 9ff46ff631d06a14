import Crosslink.Proofs.Build.Loaded
import Crosslink.Proofs.FileTree.Planting
import Crosslink.Proofs.Pool.Outcome
import Crosslink.Proofs.Session.Registered

/-!
# The phases of a build

A build in relational form: how loading, registration and resolution follow each other and
where a failure of one of them ends the build, then how the pages are written. Resolution is
any run of a pool of workers. Jobs are shown to give what the relations say.
-/

namespace Crosslink

namespace Workspace

variable {α β : Type}

theorem perform_bind (w : Workspace) (x : Job α) (f : α → Job β) :
    w.perform (x >>= f) = match w.perform x with
      | (.ok a, v) => v.perform (f a)
      | (.error e, v) => (.error e, v) := by
  rw [perform, run_bind, perform]
  rcases StateT.run (ExceptT.run x) w with ⟨a | a, v⟩ <;> rfl

/-- An action on the session with what is made of its value leaves the tree alone. -/
theorem perform_onSession_pure (w : Workspace) (action : Action α) (f : α → β) :
    w.perform (Build.onSession action >>= fun a => pure (f a)) =
      ((w.session.perform action).1.map f, ⟨w.tree, (w.session.perform action).2⟩) := by
  have haction : w.perform (Build.onSession action) =
      ((w.session.perform action).1, ⟨w.tree, (w.session.perform action).2⟩) := rfl
  rw [perform_bind, haction]
  rcases w.session.perform action with ⟨e | a, s⟩ <;> rfl

/-- The job ends with the outcome and leaves the tree, the registry and the issues; what it writes
to the log is left open. -/
def Gives (w : Workspace) (job : Job α) (outcome : Except Failure α) (tree : FileTree)
    (registry : Registry) (issues : IssueLog) : Prop :=
  ∃ log, w.perform job = (outcome, ⟨tree, registry, issues, log⟩)

namespace Gives

variable {w : Workspace} {tree tree' : FileTree} {registry registry' : Registry}
  {issues issues' : IssueLog}

/-- A job goes on from what its first part leaves. -/
theorem next {x : Job α} {f : α → Job β} {a : α} {Q : Except Failure β × Workspace → Prop}
    (h : w.Gives x (.ok a) tree registry issues)
    (hf : ∀ log, Q (perform ⟨tree, registry, issues, log⟩ (f a))) : Q (w.perform (x >>= f)) := by
  obtain ⟨log, h⟩ := h
  rw [perform_bind, h]
  exact hf log

/-- A job whose first part fails ends there. -/
theorem stop {x : Job α} {f : α → Job β} {e : Failure} {Q : Except Failure β × Workspace → Prop}
    (h : w.Gives x (.error e) tree registry issues)
    (hf : ∀ log, Q (.error e, ⟨tree, registry, issues, log⟩)) : Q (w.perform (x >>= f)) := by
  obtain ⟨log, h⟩ := h
  rw [perform_bind, h]
  exact hf log

theorem bind {x : Job α} {f : α → Job β} {a : α} {outcome : Except Failure β}
    (h : w.Gives x (.ok a) tree registry issues)
    (hf : ∀ log, Gives ⟨tree, registry, issues, log⟩ (f a) outcome tree' registry' issues') :
    w.Gives (x >>= f) outcome tree' registry' issues' :=
  h.next (Q := fun y => ∃ log, y = (outcome, ⟨tree', registry', issues', log⟩)) hf

theorem bind_error {x : Job α} {f : α → Job β} {e : Failure}
    (h : w.Gives x (.error e) tree registry issues) :
    w.Gives (x >>= f) (.error e) tree registry issues :=
  h.stop (Q := fun y => ∃ log, y = (.error e, ⟨tree, registry, issues, log⟩)) fun log => ⟨log, rfl⟩

/-- What is read is the workspace at hand. -/
theorem get_bind {f : Workspace → Job β} {outcome : Except Failure β}
    (h : w.Gives (f w) outcome tree registry issues) :
    w.Gives (get >>= f) outcome tree registry issues := by
  obtain ⟨log, h⟩ := h
  exact ⟨log, by rw [perform_bind]; exact h⟩

/-- An action on the session leaves the tree alone. -/
theorem onSession {action : Action α} {outcome : Except Failure α}
    (h : w.session.Gives action outcome registry issues) :
    w.Gives (Build.onSession action) outcome w.tree registry issues := by
  obtain ⟨log, h⟩ := h
  refine ⟨log, ?_⟩
  change ((w.session.perform action).1, Workspace.mk w.tree (w.session.perform action).2) = _
  rw [h]

end Gives

theorem gives_pure (w : Workspace) (a : α) :
    w.Gives (pure a) (.ok a) w.tree w.session.registry w.session.issues :=
  ⟨w.session.log, rfl⟩

theorem gives_throw (w : Workspace) (e : Failure) :
    w.Gives (throw e : Job α) (.error e) w.tree w.session.registry w.session.issues :=
  ⟨w.session.log, rfl⟩

theorem gives_require (w : Workspace) (x : Except Failure α) :
    w.Gives (Build.require x) x w.tree w.session.registry w.session.issues := by
  cases x <;> exact ⟨w.session.log, rfl⟩

theorem gives_say (w : Workspace) (level : Level) (text : String) :
    w.Gives (Build.onSession (Session.say level text)) (.ok ()) w.tree w.session.registry
      w.session.issues := .onSession (Session.gives_say _ _ _)

end Workspace

namespace Build

open Workspace

/-- What loading comes to: a strict build ends with the first file that gives no page. -/
def loads (settings : Settings) (tree : FileTree) (paths : List Path) : Except Failure Loaded :=
  if settings.workers = 0 then .error (.fault .noWorkers)
  else
    match Loaded.ofFiles tree settings.contentRoot paths with
    | .error f => .error (.fault f)
    | .ok loaded =>
      match settings.strict, loaded.failed with
      | true, (_, e) :: _ => .error (.error e)
      | _, _ => .ok loaded

/-- Loading succeeds exactly with workers, without faults and, in a strict build, without errors. -/
theorem loads_ok_iff {settings : Settings} {tree : FileTree} {paths : List Path}
    {loaded : Loaded} : loads settings tree paths = .ok loaded ↔
      0 < settings.workers ∧ (∀ file ∈ paths, Page.Loads tree settings.contentRoot file) ∧
        loaded = Loaded.among tree settings.contentRoot paths ∧
        (settings.strict = true → loaded.failed = []) := by
  rw [loads, Nat.pos_iff_ne_zero]
  by_cases hw : settings.workers = 0
  · simp [hw]
  rw [if_neg hw]
  have hfiles := @Loaded.ofFiles_ok_iff tree settings.contentRoot paths
  constructor
  · intro h
    cases hl : Loaded.ofFiles tree settings.contentRoot paths with
    | error f => simp [hl] at h
    | ok loaded' =>
      obtain ⟨hloads, rfl⟩ := hfiles.mp hl
      rw [hl] at h
      cases hs : settings.strict <;>
        rcases hf : (Loaded.among tree settings.contentRoot paths).failed with _ | ⟨x, rest⟩ <;>
        simp only [hs, hf, reduceCtorEq] at h
      all_goals
        cases h
        exact ⟨hw, hloads, rfl, by simp [hf]⟩
  · rintro ⟨-, hloads, rfl, hstrict⟩
    rw [hfiles.mpr ⟨hloads, rfl⟩]
    cases hs : settings.strict with
    | false => rfl
    | true => simp only [hstrict hs]

/-- Files that give no page are passed over, or the first of them ends the build. -/
theorem gives_skips (settings : Settings) (w : Workspace) (failed : List (Path × Error)) :
    w.Gives (failed.forM fun x => skip settings x.1 x.2)
      (match settings.strict, failed with
        | true, (_, e) :: _ => .error (.error e)
        | _, _ => .ok ⟨⟩)
      w.tree w.session.registry w.session.issues := by
  induction failed generalizing w with
  | nil => cases settings.strict <;> exact gives_pure w _
  | cons x rest ih =>
    change w.Gives (skip settings x.1 x.2 >>= fun _ => rest.forM _) _ _ _ _
    rw [skip]
    cases hs : settings.strict with
    | true => exact (gives_throw w (.error x.2)).bind_error
    | false =>
      refine Gives.bind (gives_say w .error _) fun log => ?_
      simpa only [hs] using ih ⟨w.tree, w.session.registry, w.session.issues, log⟩

theorem gives_load (settings : Settings) (w : Workspace) (paths : List Path) :
    w.Gives (load settings paths) (loads settings w.tree paths) w.tree w.session.registry
      w.session.issues := by
  rw [load, loads]
  by_cases hw : settings.workers = 0
  · rw [if_pos hw, if_pos hw]
    exact (gives_throw w _).bind_error
  · rw [if_neg hw, if_neg hw]
    refine Gives.get_bind ?_
    have hload := gives_require w
      ((Loaded.ofFiles w.tree settings.contentRoot paths).mapError .fault)
    cases hl : Loaded.ofFiles w.tree settings.contentRoot paths with
    | error f => exact (hl ▸ hload).bind_error
    | ok loaded =>
      refine (hl ▸ hload).bind fun log => ?_
      have hskip := gives_skips settings ⟨w.tree, w.session.registry, w.session.issues, log⟩
        loaded.failed
      rcases hs : settings.strict with _ | _ <;> rcases hf : loaded.failed with _ | ⟨x, rest⟩ <;>
        simp only [hs, hf] at hskip ⊢
      all_goals first
        | exact hskip.bind_error
        | exact hskip.bind fun log => gives_pure ⟨w.tree, _, _, log⟩ _

/-- Loading, registering and resolving, from a tree and a registry on: how this may end, and the
registry and the issues that it leaves. -/
inductive Prepares (settings : Settings) (tree : FileTree) (r : Registry) (paths : List Path) :
    Except Failure (Loaded × List (Page × PageReport)) → Registry → IssueLog → Prop
  | unloaded {f : Failure} (hload : loads settings tree paths = .error f) :
      Prepares settings tree r paths (.error f) r .empty
  | unregistered {loaded : Loaded} {f : Failure} (hload : loads settings tree paths = .ok loaded)
      (hregister : (Registered.all settings.policy loaded.pages r).outcome = .error f) :
      Prepares settings tree r paths (.error f)
        (Registered.all settings.policy loaded.pages r).registry
        (IssueLog.empty.addAll (Registered.all settings.policy loaded.pages r).issues)
  /-- Pages are resolved on the registry and with the issues that registration leaves. -/
  | resolved {loaded : Loaded} {s s' : Session}
      {outcome : Except Failure (List (Page × PageReport))}
      (hload : loads settings tree paths = .ok loaded)
      (hregister : (Registered.all settings.policy loaded.pages r).outcome = .ok ())
      (hregistry : s.registry = (Registered.all settings.policy loaded.pages r).registry)
      (hissues : s.issues =
        IssueLog.empty.addAll (Registered.all settings.policy loaded.pages r).issues)
      (hresolve : Pool.Resolves settings.policy settings.workers loaded.pages s outcome s') :
      Prepares settings tree r paths (outcome.map (loaded, ·)) s'.registry s'.issues

/-- Phases that have gone through have resolved the pages that were loaded and registered. -/
theorem Prepares.of_ok {settings : Settings} {tree : FileTree} {r r' : Registry}
    {paths : List Path} {loaded : Loaded} {resolved : List (Page × PageReport)}
    {issues : IssueLog} (h : Prepares settings tree r paths (.ok (loaded, resolved)) r' issues) :
    loads settings tree paths = .ok loaded ∧
      (Registered.all settings.policy loaded.pages r).outcome = .ok () ∧
      ∃ s s' : Session, s.registry = (Registered.all settings.policy loaded.pages r).registry ∧
        s.issues = IssueLog.empty.addAll (Registered.all settings.policy loaded.pages r).issues ∧
        Pool.Resolves settings.policy settings.workers loaded.pages s (.ok resolved) s' ∧
        s'.registry = r' ∧ s'.issues = issues := by
  generalize houtcome : (Except.ok (loaded, resolved) :
    Except Failure (Loaded × List (Page × PageReport))) = outcome at h
  cases h with
  | unloaded _ => cases houtcome
  | unregistered _ _ => cases houtcome
  | @resolved loaded' s s' x hload hregister hregistry hissues hresolve =>
    rcases x with f | resolved'
    · cases houtcome
    · cases houtcome
      exact ⟨hload, hregister, s, s', hregistry, hissues, hresolve, rfl, rfl⟩

/-- The first three phases are as the relation says, whatever steps the workers make, and leave
the tree alone. -/
theorem prepares {settings : Settings} (σ : Scheduler settings.policy settings.workers)
    (w : Workspace) (paths : List Path) :
    (w.perform (prepare σ.resolve settings paths)).2.tree = w.tree ∧
      Prepares settings w.tree w.session.registry paths
        (w.perform (prepare σ.resolve settings paths)).1
        (w.perform (prepare σ.resolve settings paths)).2.session.registry
        (w.perform (prepare σ.resolve settings paths)).2.session.issues := by
  let Q : Except Failure (Loaded × List (Page × PageReport)) × Workspace → Prop := fun y =>
    y.2.tree = w.tree ∧ Prepares settings w.tree w.session.registry paths y.1 y.2.session.registry
      y.2.session.issues
  change Q (w.perform (prepare σ.resolve settings paths))
  refine (gives_say w .info _).next fun log => ?_
  have hreset : Gives ⟨w.tree, w.session.registry, w.session.issues, log⟩
      (onSession Session.resetIssues) (.ok ⟨⟩) w.tree w.session.registry .empty := ⟨log, rfl⟩
  refine hreset.next fun log => ?_
  have hload := gives_load settings ⟨w.tree, w.session.registry, .empty, log⟩ paths
  cases hl : loads settings w.tree paths with
  | error f => exact Gives.stop (hl ▸ hload) fun _ => ⟨rfl, .unloaded hl⟩
  | ok loaded =>
    refine Gives.next (hl ▸ hload) fun log => ?_
    have hregister := Gives.onSession (w := ⟨w.tree, w.session.registry, .empty, log⟩)
      (Session.gives_registerAll settings.policy loaded.pages ⟨w.session.registry, .empty, log⟩)
    cases hr : (Registered.all settings.policy loaded.pages w.session.registry).outcome with
    | error f => exact Gives.stop (hr ▸ hregister) fun _ => ⟨rfl, .unregistered hl hr⟩
    | ok _ =>
      refine Gives.next (hr ▸ hregister) fun log => ?_
      have hfollows := σ.follows (loads_ok_iff.mp hl).1 loaded.pages
        ⟨(Registered.all settings.policy loaded.pages w.session.registry).registry,
          IssueLog.empty.addAll
            (Registered.all settings.policy loaded.pages w.session.registry).issues, log⟩
      rw [perform_onSession_pure]
      exact ⟨rfl, .resolved hl hr rfl rfl hfollows⟩

/-- The files to which pages are written, with what is written. -/
def plantings (settings : Settings) (pages : List Page) : List (Path × List UInt8) :=
  pages.map fun p => (settings.outputDir.join p.relativePath, Text.Utf8.encode p.render)

/-- What writing comes to: the tree, and the files that were written, none if none are wanted. -/
def written (settings : Settings) (write : Bool) (tree : FileTree) (pages : List Page) :
    FileTree × Except Failure (List Path) :=
  if write then
    ((tree.plantAll (plantings settings pages)).1,
      match (tree.plantAll (plantings settings pages)).2 with
      | .ok () => .ok ((plantings settings pages).map (·.1))
      | .error f => .error (.fault (.files f)))
  else (tree, .ok [])

/-- The result of a build that has come to its end. -/
def summary (loaded : Loaded) (resolved : List (Page × PageReport)) (issues : IssueLog)
    (files : List Path) : BuildResult where
  pages := resolved.map (·.1)
  reports := resolved.map (·.2)
  failed := loaded.failed
  written := files
  issues := issues.issues

/-- A result sums up the files that were written. -/
theorem map_summary_eq_ok {x : Except Failure (List Path)} {loaded : Loaded}
    {resolved : List (Page × PageReport)} {issues : IssueLog} {result : BuildResult} :
    x.map (summary loaded resolved issues) = .ok result ↔
      ∃ files, x = .ok files ∧ summary loaded resolved issues files = result := by
  cases x <;> simp [Except.map]

theorem gives_writePage (settings : Settings) (w : Workspace) (page : Page) :
    w.Gives (writePage settings.outputDir page)
      ((w.tree.plant (settings.outputDir.join page.relativePath)
          (Text.Utf8.encode page.render)).2.mapError (fun f => .fault (.files f)) |>.map
        fun _ => settings.outputDir.join page.relativePath)
      (w.tree.plant (settings.outputDir.join page.relativePath)
        (Text.Utf8.encode page.render)).1
      w.session.registry w.session.issues := by
  refine Gives.get_bind ?_
  rcases hp : w.tree.plant (settings.outputDir.join page.relativePath)
    (Text.Utf8.encode page.render) with ⟨tree, f | _⟩ <;> exact ⟨w.session.log, rfl⟩

theorem written_cons (settings : Settings) (tree : FileTree) (page : Page) (rest : List Page) :
    written settings true tree (page :: rest) =
      match tree.plant (settings.outputDir.join page.relativePath)
        (Text.Utf8.encode page.render) with
      | (tree, .ok ()) => ((written settings true tree rest).1,
          (written settings true tree rest).2.map (settings.outputDir.join page.relativePath :: ·))
      | (tree, .error f) => (tree, .error (.fault (.files f))) := by
  simp only [written, if_true, plantings, List.map_cons, FileTree.plantAll]
  rcases tree.plant (settings.outputDir.join page.relativePath)
    (Text.Utf8.encode page.render) with ⟨tree, f | _⟩
  · rfl
  · simp only
    cases (tree.plantAll (rest.map fun p =>
      (settings.outputDir.join p.relativePath, Text.Utf8.encode p.render))).2 <;> rfl

/-- Pages are planted one after the other. -/
theorem gives_writePages (settings : Settings) (pages : List Page) (w : Workspace) :
    w.Gives (pages.mapM (writePage settings.outputDir)) (written settings true w.tree pages).2
      (written settings true w.tree pages).1 w.session.registry w.session.issues := by
  induction pages generalizing w with
  | nil => exact gives_pure w _
  | cons page rest ih =>
    rw [List.mapM_cons, written_cons]
    have hpage := gives_writePage settings w page
    rcases hp : w.tree.plant (settings.outputDir.join page.relativePath)
      (Text.Utf8.encode page.render) with ⟨tree, f | _⟩ <;> rw [hp] at hpage
    · exact hpage.bind_error
    · refine hpage.bind fun log => ?_
      have hrest := ih ⟨tree, w.session.registry, w.session.issues, log⟩
      rcases ht : written settings true tree rest with ⟨tree', f | files⟩ <;>
        simp only [ht] at hrest ⊢
      · exact hrest.bind_error
      · exact hrest.bind fun log => gives_pure ⟨tree', _, _, log⟩ _

/-- Writing and summing up are what the closed form says, and leave the session as it is. -/
theorem gives_publish (settings : Settings) (write : Bool) (w : Workspace) (loaded : Loaded)
    (resolved : List (Page × PageReport)) :
    w.Gives (publish settings write loaded resolved)
      ((written settings write w.tree (resolved.map (·.1))).2.map
        (summary loaded resolved w.session.issues))
      (written settings write w.tree (resolved.map (·.1))).1 w.session.registry
      w.session.issues := by
  have hsum : ∀ (v : Workspace) (files : List Path),
      v.Gives (do
        let result : BuildResult := {
          pages := resolved.map (·.1)
          reports := resolved.map (·.2)
          failed := loaded.failed
          written := files
          issues := (← get).session.issues.issues }
        onSession (Session.say .info ("Rewrote " ++ toString result.rewritten ++ " link(s), "
          ++ toString result.issues.length ++ " issue(s)"))
        return result) (.ok (summary loaded resolved v.session.issues files)) v.tree
        v.session.registry v.session.issues := by
    intro v files
    refine Gives.get_bind ?_
    exact (gives_say v .info _).bind fun log => gives_pure ⟨v.tree, _, _, log⟩ _
  rw [publish]
  cases write with
  | false => exact hsum w []
  | true =>
    simp only [if_true]
    have hwrite := gives_writePages settings (resolved.map (·.1)) w
    rcases hw : written settings true w.tree (resolved.map (·.1)) with ⟨tree, f | files⟩ <;>
      rw [hw] at hwrite ⊢
    · exact hwrite.bind_error
    · refine hwrite.bind fun log => ?_
      refine Gives.bind (gives_say ⟨tree, _, _, log⟩ .info _) fun log => ?_
      exact hsum ⟨tree, _, _, log⟩ files

/-- A build from given paths is its first three phases, and the publication of what they give. -/
theorem perform_runWith (resolve : List Page → Action (List (Page × PageReport)))
    (settings : Settings) (w : Workspace) (paths : List Path) (write : Bool) :
    w.perform (runWith resolve settings (some paths) write) =
      match w.perform (prepare resolve settings paths) with
      | (.ok x, v) => v.perform (publish settings write x.1 x.2)
      | (.error f, v) => (.error f, v) := by
  have hrun : runWith resolve settings (some paths) write =
      prepare resolve settings paths >>= fun x => publish settings write x.1 x.2 := rfl
  rw [hrun, perform_bind]
  rcases w.perform (prepare resolve settings paths) with ⟨f | x, v⟩ <;> rfl

/-- A build that fails in its first three phases leaves the tree alone. -/
theorem perform_runWith_of_error {settings : Settings}
    (σ : Scheduler settings.policy settings.workers) {w : Workspace} {paths : List Path}
    {f : Failure} (h : (w.perform (prepare σ.resolve settings paths)).1 = .error f)
    (write : Bool) :
    (w.perform (runWith σ.resolve settings (some paths) write)).1 = .error f ∧
      (w.perform (runWith σ.resolve settings (some paths) write)).2.tree = w.tree := by
  have htree := (prepares σ w paths).1
  rw [perform_runWith]
  rcases hv : w.perform (prepare σ.resolve settings paths) with ⟨x, v⟩
  rw [hv] at h htree
  subst h
  exact ⟨rfl, htree⟩

/-- A whole build: it ends with the failure of an early phase, and then writes nothing, or goes
on to write its pages. -/
inductive Builds (settings : Settings) (write : Bool) (tree : FileTree) (r : Registry)
    (paths : List Path) : Except Failure BuildResult → FileTree → Registry → IssueLog → Prop
  | stopped {f : Failure} {r' : Registry} {issues : IssueLog}
      (hprepare : Prepares settings tree r paths (.error f) r' issues) :
      Builds settings write tree r paths (.error f) tree r' issues
  | published {loaded : Loaded} {resolved : List (Page × PageReport)} {r' : Registry}
      {issues : IssueLog}
      (hprepare : Prepares settings tree r paths (.ok (loaded, resolved)) r' issues) :
      Builds settings write tree r paths
        ((written settings write tree (resolved.map (·.1))).2.map (summary loaded resolved issues))
        (written settings write tree (resolved.map (·.1))).1 r' issues

/-- A build that has come to its end sums up its phases and the files it has written. -/
theorem Builds.of_ok {settings : Settings} {write : Bool} {tree t : FileTree} {r r' : Registry}
    {paths : List Path} {result : BuildResult} {issues : IssueLog}
    (h : Builds settings write tree r paths (.ok result) t r' issues) :
    ∃ loaded resolved files, Prepares settings tree r paths (.ok (loaded, resolved)) r' issues ∧
      (written settings write tree (resolved.map (·.1))).2 = .ok files ∧
      summary loaded resolved issues files = result := by
  generalize houtcome : (Except.ok result : Except Failure BuildResult) = outcome at h
  cases h with
  | stopped _ => cases houtcome
  | @published loaded resolved _ _ hprepare =>
    obtain ⟨files, hw, hresult⟩ := map_summary_eq_ok.mp houtcome.symm
    exact ⟨loaded, resolved, files, hprepare, hw, hresult⟩

/-- A build from given paths is as the relation says, whatever steps the workers make. -/
theorem builds {settings : Settings} (σ : Scheduler settings.policy settings.workers)
    (w : Workspace) (paths : List Path) (write : Bool) :
    Builds settings write w.tree w.session.registry paths
      (w.perform (runWith σ.resolve settings (some paths) write)).1
      (w.perform (runWith σ.resolve settings (some paths) write)).2.tree
      (w.perform (runWith σ.resolve settings (some paths) write)).2.session.registry
      (w.perform (runWith σ.resolve settings (some paths) write)).2.session.issues := by
  obtain ⟨htree, hprepare⟩ := prepares σ w paths
  rw [perform_runWith]
  rcases hp : w.perform (prepare σ.resolve settings paths) with ⟨f | ⟨loaded, resolved⟩, v⟩ <;>
    rw [hp] at htree hprepare <;> simp only at htree hprepare ⊢ <;> rw [← htree] at hprepare ⊢
  · exact .stopped hprepare
  · obtain ⟨log, hpublish⟩ := gives_publish settings write v loaded resolved
    rw [hpublish]
    exact .published hprepare

end Build

end Crosslink
