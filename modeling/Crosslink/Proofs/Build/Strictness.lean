import Crosslink.Proofs.Build.Completion
import Crosslink.Proofs.Session.Strictness

/-!
# Strict builds

A strict build is settled by the result of a permissive one. It ends with the first problem that
the result has: the error of a file before all, else an issue of registration, in the order of
the text of paths, else an issue of a link, in the order of pages and links. If the result has
none, it is the result of the strict build as well. Files may be given more than once, and their
pages are then resolved by several workers at once; the first issue is the same all the same.
-/

namespace Crosslink

/-- The settings with a given strictness. -/
abbrev Settings.withStrict (settings : Settings) (strict : Bool) : Settings :=
  { settings with strict }

namespace BuildResult

/-- The first issue of registration in the order of the text of paths. -/
def firstRegistration? (result : BuildResult) : Option Issue :=
  ((Issue.registrations result.issues).mergeSort
    fun i j => i.sourceFile.textLe j.sourceFile).head?

/-- The first issue of a link in the first report that has one. -/
def firstUnresolved? (result : BuildResult) : Option Issue :=
  (result.reports.flatMap fun report => Issue.unresolved report.issues).head?

/-- A result without problems lists no issue and no file that has failed. -/
theorem ok_iff {result : BuildResult} :
    result.ok = true ↔ result.issues = [] ∧ result.failed = [] := by
  simp [ok]

/-- The problem with which a strict build ends. -/
def firstProblem? (result : BuildResult) : Option Error :=
  (result.failed.head?.map (·.2)).or
    ((result.firstRegistration?.or result.firstUnresolved?).map .buildAborted)

end BuildResult

/-- A value, unless there is a problem. -/
def enforce {α : Type} (problem : Option Error) (a : α) : Except Failure α :=
  match problem with
  | some e => .error (.error e)
  | none => .ok a

theorem enforce_eq_ok {α : Type} {problem : Option Error} {a b : α} :
    enforce problem a = .ok b ↔ problem = none ∧ a = b := by
  cases problem <;> simp [enforce]

theorem enforce_eq_error {α : Type} {problem : Option Error} {a : α} {f : Failure} :
    enforce problem a = .error f ↔ ∃ e, problem = some e ∧ .error e = f := by
  cases problem <;> simp [enforce]

namespace Build

variable {settings : Settings} {tree : FileTree} {r r' : Registry} {paths : List Path}
  {issues : IssueLog} {loaded : Loaded} {resolved : List (Page × PageReport)}

/-- What phases have gone through that are completed, also where pages share files. -/
structure Traversed (settings : Settings) (tree : FileTree) (r : Registry) (paths : List Path)
    (loaded : Loaded) (resolved : List (Page × PageReport)) (issues : IssueLog) : Prop where
  loads : loads settings tree paths = .ok loaded
  registers : (registration settings loaded r).outcome = .ok ()
  completed : Pool.Completed settings.policy (registration settings loaded r).registry
    (Telling.shared settings.policy (registration settings loaded r).registry
      (IssueLog.empty.addAll (registration settings loaded r).issues)) loaded.pages
    (IssueLog.empty.addAll (registration settings loaded r).issues) resolved issues

/-- The log on a file after registration on an empty one. -/
theorem forFile_registration (settings : Settings) (loaded : Loaded) (r : Registry) (file : Path) :
    (IssueLog.empty.addAll (registration settings loaded r).issues).forFile file =
      (registration settings loaded r).issues.filter fun i => decide (i.sourceFile = file) := by
  rw [IssueLog.forFile_addAll, IssueLog.forFile_empty, List.nil_append]

/-- After registration the log holds issues of registration only. -/
theorem registrations_forFile_registration (settings : Settings) (loaded : Loaded) (r : Registry)
    (file : Path) :
    let log := (IssueLog.empty.addAll (registration settings loaded r).issues).forFile file
    Issue.registrations log = log ∧ Issue.unresolved log = [] := by
  refine Issue.of_isRegistration fun i hi => ?_
  rw [forFile_registration] at hi
  exact (Registered.of_mem_all (List.mem_filter.mp hi).1).2

/-- The second phase after registration goes through or ends with the first issue, also where
pages share files. -/
theorem completed_or_aborted {s s' : Session}
    {outcome : Except Failure (List (Page × PageReport))}
    (hload : loads settings tree paths = .ok loaded)
    (hregister : (registration settings loaded r).outcome = .ok ())
    (hregistry : s.registry = (registration settings loaded r).registry)
    (hissues : s.issues = IssueLog.empty.addAll (registration settings loaded r).issues)
    (hresolve : Pool.Resolves settings.policy settings.workers loaded.pages s outcome s') :
    (∃ resolved, outcome = .ok resolved ∧
        Traversed settings tree r paths loaded resolved s'.issues) ∨
      (settings.strict = true ∧ ∃ i, outcome = .error (.error (.buildAborted i)) ∧
        (linkIssues settings (registration settings loaded r).registry loaded.pages).head? =
          some i) := by
  have hf : s.registry.frozen = true := hregistry ▸ Registered.frozen_all hregister
  have hown : ∀ p ∈ loaded.pages, Telling.shared settings.policy s.registry s.issues p
      (s.issues.forFile p.sourceFile) [] := by
    intro p _
    obtain ⟨hreg, hnone⟩ := registrations_forFile_registration settings loaded r p.sourceFile
    rw [← hissues] at hreg hnone
    exact ⟨hreg, fun _ => rfl, .inl hnone⟩
  have hpages : loaded.pages.Pairwise fun p q => p.sourceFile = q.sourceFile → p = q := by
    obtain ⟨-, -, rfl, -⟩ := loads_ok_iff.mp hload
    exact List.pairwise_of_forall_mem_list fun p hp q hq => Loaded.eq_of_sourceFile_eq hp hq
  rcases hresolve.completed_or_aborted (Telling.stable_shared settings.policy s.registry s.issues)
    ⟨fun _ _ h e => (h e.symm).symm⟩ hf hpages hown with ⟨resolved, rfl, hdone⟩ | habort
  · rw [hissues, hregistry] at hdone
    exact .inl ⟨resolved, rfl, hload, hregister, hdone⟩
  · rw [hregistry] at habort
    exact .inr habort

theorem Prepares.traversed
    (h : Prepares settings tree r paths (.ok (loaded, resolved)) r' issues) :
    r' = (registration settings loaded r).registry ∧
      Traversed settings tree r paths loaded resolved issues := by
  obtain ⟨hload, hregister, s, s', hregistry, hissues, hresolve, rfl, rfl⟩ := h.of_ok
  refine ⟨hresolve.registry.trans hregistry, ?_⟩
  rcases completed_or_aborted hload hregister hregistry hissues hresolve with
    ⟨resolved', hresolved, ht⟩ | ⟨-, i, habort, -⟩
  · obtain rfl := Except.ok.inj hresolved
    exact ht
  · cases habort

/-- The first issue of a link in the reports is the first of all links. -/
theorem Traversed.firstUnresolved?_summary
    (h : Traversed settings tree r paths loaded resolved issues) (files : List Path) :
    (summary loaded resolved issues files).firstUnresolved? =
      (linkIssues settings (registration settings loaded r).registry loaded.pages).head? := by
  simp only [BuildResult.firstUnresolved?, summary, List.flatMap_map]
  exact Pool.head?_unresolved_of_settled h.completed.settled

/-- The issues of registration in the log are those that registration has reported. -/
theorem Traversed.registrations (h : Traversed settings tree r paths loaded resolved issues)
    (file : Path) : Issue.registrations (issues.forFile file) =
      (registration settings loaded r).issues.filter fun i => decide (i.sourceFile = file) := by
  rw [← forFile_registration]
  exact h.completed.registrations
    (fun file => (registrations_forFile_registration settings loaded r file).1) file

/-- Phases without any issue give the pages as they become, and leave no issue. -/
theorem Traversed.eq_resolution (h : Traversed settings tree r paths loaded resolved issues)
    (hregister : (registration settings loaded r).issues = [])
    (hlinks : linkIssues settings (registration settings loaded r).registry loaded.pages = []) :
    resolved = resolution settings (registration settings loaded r) loaded.pages ∧
      issues.issues = [] := by
  obtain ⟨hresolved, hlog⟩ := h.completed.eq_outcomes
    (fun file => by rw [forFile_registration, hregister, List.filter_nil]) hlinks
  refine ⟨?_, IssueLog.issues_eq_nil.mpr hlog⟩
  simp only [resolution, hregister, List.filter_nil]
  exact hresolved

/-- Where no issue is listed, registration has reported none. -/
theorem Traversed.registration_issues_eq_nil
    (h : Traversed settings tree r paths loaded resolved issues) (hnone : issues.issues = []) :
    (registration settings loaded r).issues = [] := by
  refine List.eq_nil_iff_forall_not_mem.mpr fun i hi => ?_
  have hfile := h.registrations i.sourceFile
  rw [IssueLog.issues_eq_nil.mp hnone] at hfile
  have hmem : i ∈ (registration settings loaded r).issues.filter
      fun j => decide (j.sourceFile = i.sourceFile) := List.mem_filter.mpr ⟨hi, by simp⟩
  rw [← hfile] at hmem
  cases hmem

/-- Where no issue is listed, no link has caused one. -/
theorem Traversed.linkIssues_eq_nil (h : Traversed settings tree r paths loaded resolved issues)
    (hnone : issues.issues = []) :
    linkIssues settings (registration settings loaded r).registry loaded.pages = [] := by
  refine List.flatMap_eq_nil_iff.mpr fun p hp => ?_
  have hhead := Telling.head?_of_shared (h.completed.logs p hp)
  rw [IssueLog.issues_eq_nil.mp hnone] at hhead
  exact List.head?_eq_none_iff.mp hhead.symm

/-- A strict build loads the files if a permissive one does, or ends with the first error. -/
theorem loads_strict (h : loads (settings.withStrict false) tree paths = .ok loaded) :
    loads (settings.withStrict true) tree paths =
      enforce (loaded.failed.head?.map (·.2)) loaded := by
  obtain ⟨hw, hloads, hamong, -⟩ := loads_ok_iff.mp h
  have hfiles := Loaded.ofFiles_ok_iff.mpr ⟨hloads, hamong⟩
  rw [loads, if_neg (Nat.pos_iff_ne_zero.mp hw), hfiles]
  rcases loaded with ⟨pages, _ | ⟨x, rest⟩⟩ <;> rfl

/-- Strict registration is settled by permissive registration. -/
theorem enforces_registration (settings : Settings) (loaded : Loaded) (r : Registry) :
    Registered.Enforces (registration (settings.withStrict true) loaded r)
      (registration (settings.withStrict false) loaded r) :=
  Registered.enforces_all settings.policy loaded.pages r

/-- The first problem of loaded files and of issues of registration and of links. -/
def problem? (loaded : Loaded) (registrations links : List Issue) : Option Error :=
  (loaded.failed.head?.map (·.2)).or
    ((registrations.head?.or links.head?).map .buildAborted)

theorem problem?_eq_none {is js : List Issue} :
    problem? loaded is js = none ↔ loaded.failed = [] ∧ is = [] ∧ js = [] := by
  simp only [problem?, Option.or_eq_none_iff, Option.map_eq_none_iff, List.head?_eq_none_iff]

/-- The plan of a strict build is that of a permissive one, unless there is a problem. -/
theorem plan_strict (h : loads (settings.withStrict false) tree paths = .ok loaded)
    (hregister : (registration (settings.withStrict false) loaded r).outcome = .ok ()) :
    plan (settings.withStrict true) tree r paths =
      enforce (problem? loaded (registration (settings.withStrict false) loaded r).issues
          (linkIssues (settings.withStrict false)
            (registration (settings.withStrict false) loaded r).registry loaded.pages))
        (loaded, resolution (settings.withStrict false)
          (registration (settings.withStrict false) loaded r) loaded.pages) := by
  have henforces := enforces_registration settings loaded r
  rw [plan, loads_strict h, problem?]
  rcases loaded.failed.head? with _ | x
  · simp only [enforce, Option.map_none, Option.none_or]
    cases hi : (registration (settings.withStrict false) loaded r).issues.head? with
    | some i =>
      rw [henforces.aborted i hi]
      rfl
    | none =>
      rw [henforces.same (List.head?_eq_none_iff.mp hi), hregister, Option.none_or]
      change (Session.verdict true (linkIssues (settings.withStrict false) _ _)).map _ = _
      cases linkIssues (settings.withStrict false)
        (registration (settings.withStrict false) loaded r).registry loaded.pages <;> rfl
  · rfl

/-- A strict build whose phases are completed has met no issue. -/
theorem Traversed.of_strict
    (h : Traversed (settings.withStrict true) tree r paths loaded resolved issues) :
    (registration (settings.withStrict true) loaded r).issues = [] ∧
      linkIssues settings (registration (settings.withStrict true) loaded r).registry
        loaded.pages = [] := by
  obtain ⟨hnone, hsame⟩ := (enforces_registration settings loaded r).of_ok h.registers
  exact ⟨hsame ▸ hnone, List.flatMap_eq_nil_iff.mpr (h.completed.strict rfl)⟩

/-- A strict build whose phases are completed has the pages as they become, and lists nothing. -/
theorem Traversed.eq_resolution_of_strict
    (h : Traversed (settings.withStrict true) tree r paths loaded resolved issues) :
    resolved = resolution (settings.withStrict true)
        (registration (settings.withStrict true) loaded r) loaded.pages ∧
      issues.issues = [] :=
  h.eq_resolution h.of_strict.1 h.of_strict.2

/-- There is no first problem exactly if the result is without any. -/
theorem Traversed.problem?_eq_none (h : Traversed settings tree r paths loaded resolved issues)
    (files : List Path) :
    problem? loaded (registration settings loaded r).issues
        (linkIssues settings (registration settings loaded r).registry loaded.pages) = none ↔
      (summary loaded resolved issues files).ok = true := by
  rw [Build.problem?_eq_none, BuildResult.ok_iff]
  constructor
  · rintro ⟨hfailed, hregister, hlinks⟩
    exact ⟨(h.eq_resolution hregister hlinks).2, hfailed⟩
  · rintro ⟨hlisted, hfailed⟩
    exact ⟨hfailed, h.registration_issues_eq_nil hlisted, h.linkIssues_eq_nil hlisted⟩

/-- The phases of a strict build come to their plan, also where pages share files. -/
theorem Prepares.eq_plan_of_strict {outcome : Except Failure (Loaded × List (Page × PageReport))}
    (h : Prepares (settings.withStrict true) tree r paths outcome r' issues) :
    outcome = plan (settings.withStrict true) tree r paths := by
  refine h.eq_plan_of_resolves fun {loaded _ _ _} hload hregister hregistry hissues hresolve => ?_
  rcases completed_or_aborted hload hregister hregistry hissues hresolve with
    ⟨resolved, rfl, htraversed⟩ | ⟨hstrict, i, rfl, hi⟩
  · have hlinks : linkIssues (settings.withStrict true)
        (registration (settings.withStrict true) loaded r).registry loaded.pages = [] :=
      htraversed.of_strict.2
    rw [htraversed.eq_resolution_of_strict.1, hlinks]
    rfl
  · rw [Session.verdict_eq_error_iff.mpr ⟨hstrict, i, hi, rfl⟩]
    rfl

/-- The phases of a permissive build fail only if files do not load or pages do not register. -/
theorem Prepares.not_error {f : Failure}
    (hload : loads (settings.withStrict false) tree paths = .ok loaded)
    (hregister : (registration (settings.withStrict false) loaded r).outcome = .ok ()) :
    ¬ Prepares (settings.withStrict false) tree r paths (.error f) r' issues := by
  intro h
  generalize houtcome : (Except.error f :
    Except Failure (Loaded × List (Page × PageReport))) = outcome at h
  cases h with
  | unloaded hload' => cases hload.symm.trans hload'
  | unregistered hload' hregister' =>
    cases hload.symm.trans hload'
    cases hregister.symm.trans hregister'
  | resolved hload' hregister' hregistry hissues hresolve =>
    rcases completed_or_aborted hload' hregister' hregistry hissues hresolve with
      ⟨resolved, rfl, -⟩ | ⟨hstrict, -⟩
    · cases houtcome
    · cases hstrict

/-- The first issue of registration that is listed is the first that registration reports. -/
theorem Traversed.firstRegistration?_summary (hn : ∀ p ∈ paths, p.IsNormal)
    (h : Traversed settings tree r paths loaded resolved issues) (files : List Path) :
    (summary loaded resolved issues files).firstRegistration? =
      (registration settings loaded r).issues.head? := by
  have hfilter : ∀ file, ((Issue.registrations issues.issues).mergeSort
        fun i j => i.sourceFile.textLe j.sourceFile).filter
          (fun i => decide (i.sourceFile = file)) =
      (registration settings loaded r).issues.filter fun i => decide (i.sourceFile = file) := by
    intro file
    rw [Path.filter_mergeSort (fun i : Issue => i.sourceFile) Path.textLe Path.textLe_trans
      Path.textLe_total, Issue.registrations, List.filter_comm, IssueLog.filter_issues]
    exact h.registrations file
  refine congrArg List.head? (Path.eq_of_filter_eq (fun i : Issue => i.sourceFile) Path.textLe
    Path.textLe_antisymm (fun i hi => ?_) (Path.pairwise_mergeSort_text _ _)
    (Registered.pairwise_all _ _ _) hfilter)
  have hown : i ∈ (registration settings loaded r).issues := by
    have hmem := hfilter i.sourceFile ▸ List.mem_filter.mpr ⟨hi, decide_eq_true rfl⟩
    exact (List.mem_filter.mp hmem).1
  obtain ⟨⟨p, hp, hfile⟩, -⟩ := Registered.of_mem_all hown
  obtain ⟨-, -, rfl, -⟩ := loads_ok_iff.mp h.loads
  rw [hfile]
  exact hn _ (Loaded.mem_of_mem_pages_among hp).1

theorem Traversed.firstProblem?_summary (hn : ∀ p ∈ paths, p.IsNormal)
    (h : Traversed settings tree r paths loaded resolved issues) (files : List Path) :
    (summary loaded resolved issues files).firstProblem? =
      problem? loaded (registration settings loaded r).issues
        (linkIssues settings (registration settings loaded r).registry loaded.pages) := by
  rw [BuildResult.firstProblem?, h.firstRegistration?_summary hn, h.firstUnresolved?_summary]
  rfl

/-- Where a permissive build has a result, a strict one from the same files has it too, or ends
with the first problem. -/
theorem Builds.eq_enforce {write : Bool} {outcome : Except Failure BuildResult}
    {u : FileTree} {r₂ : Registry} {is js : IssueLog} {files : List Path}
    (ht : Traversed (settings.withStrict false) tree r paths loaded resolved is)
    (hw : (written (settings.withStrict false) write tree (resolved.map (·.1))).2 = .ok files)
    (h : Builds (settings.withStrict true) write tree r paths outcome u r₂ js) :
    outcome = enforce
      (problem? loaded (registration (settings.withStrict false) loaded r).issues
        (linkIssues (settings.withStrict false)
          (registration (settings.withStrict false) loaded r).registry loaded.pages))
      (summary loaded resolved is files) := by
  have hplan := plan_strict ht.loads ht.registers
  cases h with
  | stopped hprepare =>
    have hstopped := hprepare.eq_plan_of_strict.trans hplan
    obtain ⟨e, hproblem, rfl⟩ := enforce_eq_error.mp hstopped.symm
    exact (enforce_eq_error.mpr ⟨e, hproblem, rfl⟩).symm
  | published hprepare =>
    have hpublished := hprepare.eq_plan_of_strict.trans hplan
    obtain ⟨hproblem, hsame⟩ := enforce_eq_ok.mp hpublished.symm
    obtain ⟨rfl, rfl⟩ := Prod.mk.inj hsame
    -- Nothing was left to stop at, so the strict build has published the same pages.
    obtain ⟨-, hregister, hlinks⟩ := Build.problem?_eq_none.mp hproblem
    obtain ⟨rfl, hlisted⟩ := ht.eq_resolution hregister hlinks
    obtain ⟨-, hlisted'⟩ := hprepare.traversed.2.eq_resolution_of_strict
    change (written (settings.withStrict false) write tree _).2.map _ = _
    rw [hw, hproblem]
    simp only [Except.map, enforce, summary, hlisted, hlisted']

/-- A strict build from the same files ends with the first problem of the result. -/
theorem Builds.strict (hn : ∀ p ∈ paths, p.IsNormal) {write : Bool} {result : BuildResult}
    {outcome : Except Failure BuildResult} {t u : FileTree} {r₁ r₂ : Registry}
    {is js : IssueLog}
    (h : Builds (settings.withStrict false) write tree r paths (.ok result) t r₁ is)
    (h' : Builds (settings.withStrict true) write tree r paths outcome u r₂ js) :
    outcome = enforce result.firstProblem? result := by
  obtain ⟨loaded, resolved, files, hprepare, hw, rfl⟩ := h.of_ok
  obtain ⟨-, ht⟩ := hprepare.traversed
  rw [ht.firstProblem?_summary hn]
  exact h'.eq_enforce ht hw

/-- A strict build that comes to its end has the result of a permissive one. -/
theorem Builds.of_strict {write : Bool} {result : BuildResult}
    {outcome : Except Failure BuildResult} {t u : FileTree} {r₁ r₂ : Registry}
    {is js : IssueLog}
    (h : Builds (settings.withStrict true) write tree r paths (.ok result) t r₁ is)
    (h' : Builds (settings.withStrict false) write tree r paths outcome u r₂ js) :
    outcome = .ok result := by
  obtain ⟨loaded, resolved, files, hprepare, hw, rfl⟩ := h.of_ok
  obtain ⟨-, ht⟩ := hprepare.traversed
  obtain ⟨hregister, hlinks⟩ := ht.of_strict
  obtain ⟨rfl, hlisted⟩ := ht.eq_resolution_of_strict
  have hsame : registration (settings.withStrict true) loaded r =
      registration (settings.withStrict false) loaded r :=
    ((enforces_registration settings loaded r).of_ok ht.registers).2
  have hload : loads (settings.withStrict false) tree paths = .ok loaded := by
    obtain ⟨hworkers, hloads, hamong, -⟩ := loads_ok_iff.mp ht.loads
    exact loads_ok_iff.mpr ⟨hworkers, hloads, hamong, nofun⟩
  cases h' with
  | stopped hprepare' =>
    exact absurd hprepare' (Prepares.not_error hload (hsame ▸ ht.registers))
  | @published loaded' resolved' _ _ hprepare' =>
    obtain ⟨-, ht'⟩ := hprepare'.traversed
    obtain rfl := Except.ok.inj (hload.symm.trans ht'.loads)
    obtain ⟨rfl, hlisted'⟩ := ht'.eq_resolution (hsame ▸ hregister) (hsame ▸ hlinks)
    rw [← hsame]
    change (written (settings.withStrict true) write tree
      ((resolution (settings.withStrict true) _ _).map (·.1))).2.map _ = _
    rw [hw]
    simp only [Except.map, summary, hlisted, hlisted']
    rfl

/-- A strict build has a result exactly if a permissive one has it and it is without problems. -/
theorem Builds.strict_ok_iff {write : Bool} {outcome outcome' : Except Failure BuildResult}
    {t u : FileTree} {r₁ r₂ : Registry} {is js : IssueLog}
    (h : Builds (settings.withStrict false) write tree r paths outcome t r₁ is)
    (h' : Builds (settings.withStrict true) write tree r paths outcome' u r₂ js)
    (result : BuildResult) : outcome' = .ok result ↔ outcome = .ok result ∧ result.ok = true := by
  have hok_iff : outcome = .ok result → (outcome' = .ok result ↔ result.ok = true) := by
    rintro rfl
    obtain ⟨loaded, resolved, files, hprepare, hw, rfl⟩ := h.of_ok
    obtain ⟨-, ht⟩ := hprepare.traversed
    rw [h'.eq_enforce ht hw, enforce_eq_ok, ht.problem?_eq_none files]
    exact and_iff_left rfl
  constructor
  · intro hstrict
    have hpermissive := Builds.of_strict (hstrict ▸ h') h
    exact ⟨hpermissive, (hok_iff hpermissive).mp hstrict⟩
  · rintro ⟨hpermissive, hok⟩
    exact (hok_iff hpermissive).mpr hok

/-- A strict build and a permissive one, each on a fresh session and with any order of the steps
of the workers. The strict build comes to its end exactly when the permissive one has a result
without problems, and that is the result of both. If the permissive build has a result, the strict
one ends with the first problem that this has: the first error in the order of the files, an issue
of registration, or the issue of the first link. A strict build that fails before pages are written
leaves the tree alone. -/
theorem run_strict (settings : Settings) {n : Nat} (tree : FileTree)
    (hn : ∀ p ∈ paths, p.IsNormal) (write : Bool)
    (σ : Scheduler (settings.withStrict false).policy n)
    (σ' : Scheduler (settings.withStrict true).policy n) :
    let permissive := runFresh (settings.withStrict false) σ tree paths write
    let strict := runFresh (settings.withStrict true) σ' tree paths write
    (∀ result, strict.1 = .ok result ↔ permissive.1 = .ok result ∧ result.ok = true) ∧
      (∀ result, permissive.1 = .ok result →
        strict.1 = enforce result.firstProblem? result ∧
          result.failed = paths.filterMap (Page.failed? tree settings.contentRoot) ∧
          result.firstUnresolved? =
            (linkIssues settings permissive.2.session.registry
              (paths.filterMap (Page.loaded? tree settings.contentRoot))).head?) ∧
      ∀ f, (Workspace.perform ⟨tree, .empty⟩
          (prepare σ'.resolve ((settings.withStrict true).withWorkers n) paths)).1 = .error f →
        strict.1 = .error f ∧ strict.2.tree = tree := by
  intro permissive strict
  have hpermissive : Builds ((settings.withWorkers n).withStrict false) write tree .empty paths
      permissive.1 permissive.2.tree permissive.2.session.registry permissive.2.session.issues :=
    builds_runFresh (settings.withStrict false) σ tree paths write
  have hstrict : Builds ((settings.withWorkers n).withStrict true) write tree .empty paths
      strict.1 strict.2.tree strict.2.session.registry strict.2.session.issues :=
    builds_runFresh (settings.withStrict true) σ' tree paths write
  refine ⟨hpermissive.strict_ok_iff hstrict,
    fun result h => ⟨Builds.strict hn (h ▸ hpermissive) hstrict, ?_⟩, fun f h => ?_⟩
  · rw [h] at hpermissive
    obtain ⟨loaded, resolved, files, hprepare, -, rfl⟩ := hpermissive.of_ok
    obtain ⟨hregistry, ht⟩ := hprepare.traversed
    obtain ⟨-, -, rfl, -⟩ := loads_ok_iff.mp ht.loads
    refine ⟨rfl, ?_⟩
    rw [hregistry]
    exact ht.firstUnresolved?_summary files
  · exact @perform_runWith_of_error ((settings.withStrict true).withWorkers n) σ'
      ⟨tree, .empty⟩ paths f h write

theorem run_strict_sample :
    (∃ result, (runFresh (Sample.settings.withStrict false) (.sequential _ 2) Sample.tree
      Sample.paths true).1 = .ok result) ∧
    (runFresh (Sample.settings.withStrict true) (.sequential _ 2) Sample.tree Sample.paths true).1 =
      .error (.error (.unreadable ⟨.relative, ["content", "c.md"]⟩ .missing)) := by
  have hd : Sample.paths.Nodup := by decide
  have hn : ∀ p ∈ Sample.paths, p.IsNormal := by decide
  obtain ⟨result, h⟩ : ∃ result, (runFresh (Sample.settings.withStrict false) (.sequential _ 2)
      Sample.tree Sample.paths true).1 = .ok result :=
    ⟨_, ((builds_runFresh _ _ _ _ _).ok_iff rfl hd _).mpr ⟨sample_completes Nat.two_pos, rfl⟩⟩
  refine ⟨⟨result, h⟩, ?_⟩
  obtain ⟨-, henforced, -⟩ := run_strict Sample.settings Sample.tree hn true (.sequential _ 2)
    (.sequential _ 2)
  obtain ⟨hstrict, hfailed, -⟩ := henforced result h
  have hfirst : (Sample.paths.filterMap
      (Page.failed? Sample.tree Sample.settings.contentRoot)).head?.map (·.2) =
        some (.unreadable ⟨.relative, ["content", "c.md"]⟩ .missing) := by
    decide +kernel
  rw [hstrict, BuildResult.firstProblem?, hfailed, hfirst]
  rfl

end Build

end Crosslink
