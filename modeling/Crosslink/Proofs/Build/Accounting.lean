import Crosslink.Proofs.Build.Completion

/-!
# Accounting for links

What becomes of each link, said rule by rule: links that do not concern the program are kept,
a token is either rewritten or leaves its link inert and causes one issue. A permissive build
applies these rules to every link of every page, so each token is counted exactly once, by its
page's number of rewritten links or by an issue, whatever issues of registration the page has.
-/

namespace Crosslink

/-- Does a title say anything? -/
def hasText (title : Option String) : Bool := title.any (· != "")

/-- The target is a reference or a place in the repository. -/
def Link.isToken (l : Link) : Bool :=
  match Target.ofString l.url with
  | .plain _ => false
  | _ => true

/-- The issue of a link, which names the place and the target as they were written. -/
def Link.issue (kind : IssueKind) (message : String) (file : Path) (l : Link) : Issue :=
  ⟨kind, message, file, l.origin.line, l.origin.column, some l.origin.url, none⟩

/-- What becomes of a link of a file when the registry is frozen: the link after it, the number
of rewritten links and the issues. -/
inductive Link.Becomes (policy : Policy) (r : Registry) (file : Path) (l : Link) :
    Link → Nat → List Issue → Prop
  | plain {url : String} (ht : Target.ofString l.url = .plain url) : Becomes policy r file l l 0 []
  | repository {path : Option String} (ht : Target.ofString l.url = .repository path)
      (hp : path ≠ none ∨ policy.repoLinkRequiresPath = false) :
      Becomes policy r file l { l with url := policy.urlFor path } 1 []
  /-- The title is taken from the record if the link has none and the record has one. -/
  | reference {identifier : String} {anchor : Option String} {x : Record}
      (ht : Target.ofString l.url = .reference identifier anchor)
      (hx : r.get? identifier = some x) (hf : x.sourceFile ≠ file) :
      Becomes policy r file l
        { l with
          url := match anchor with
            | none => x.canonicalPath
            | some a => x.canonicalPath ++ "#" ++ a
          title := if !hasText l.title && hasText x.title then x.title else l.title } 1 []
  | missingReference {identifier : String} {anchor : Option String}
      (ht : Target.ofString l.url = .reference identifier anchor)
      (hx : r.get? identifier = none) :
      Becomes policy r file l { l with inert := true } 0
        [l.issue .missingReference
          ("No document declares globalReference " ++ Text.quoted identifier) file]
  | selfReference {identifier : String} {anchor : Option String} {x : Record}
      (ht : Target.ofString l.url = .reference identifier anchor)
      (hx : r.get? identifier = some x) (hf : x.sourceFile = file) :
      Becomes policy r file l { l with inert := true } 0
        [l.issue .selfReference ("Document links to itself through ref:" ++ identifier) file]
  | missingPath (ht : Target.ofString l.url = .repository none)
      (hp : policy.repoLinkRequiresPath = true) :
      Becomes policy r file l { l with inert := true } 0
        [l.issue .missingRepoPath "Repository link has no path (expected repo:<path>)" file]

/-- What becomes of links in their order, with the number of rewritten links and all issues. -/
inductive Link.AllBecome (policy : Policy) (r : Registry) (file : Path) :
    List Link → List Link → Nat → List Issue → Prop
  | nil : AllBecome policy r file [] [] 0 []
  | cons {l l' : Link} {rest rest' : List Link} {n m : Nat} {is js : List Issue}
      (h : l.Becomes policy r file l' n is) (hrest : AllBecome policy r file rest rest' m js) :
      AllBecome policy r file (l :: rest) (l' :: rest') (n + m) (is ++ js)

namespace Link

variable {policy : Policy} {r : Registry} {file : Path}

theorem adoptTitle_eq (own declared : Option String) : Resolution.adoptTitle own declared =
    if !hasText own && hasText declared then declared else own := by
  have h : ∀ t : Option String, hasText t = (t.getD "" != "") := by
    rintro (_ | s) <;> rfl
  rw [Resolution.adoptTitle, h, h]
  by_cases ho : own.getD "" = "" <;> simp [ho]

/-- An anchor that was read is not empty. -/
theorem anchor_ne_empty {raw identifier anchor : String}
    (h : Target.ofString raw = .reference identifier (some anchor)) : anchor ≠ "" := by
  have hread : ∀ {cs : List Char} {t : Target}, Target.reference? cs = some t →
      ∃ name tail, t = .reference name (Target.nonEmpty? tail) := by
    intro cs t ht
    simp only [Target.reference?] at ht
    repeat' split at ht
    all_goals first
      | exact ⟨_, _, (Option.some.inj ht).symm⟩
      | cases ht
  have htoken : Target.token? (Target.unwrap raw.toList) =
      some (.reference identifier (some anchor)) := by
    rw [Target.ofString] at h
    cases ht : Target.token? (Target.unwrap raw.toList) with
    | none => simp [ht] at h
    | some t => simpa [ht] using h
  have hreference : ∃ cs, Target.reference? cs = some (.reference identifier (some anchor)) := by
    rw [Target.token?] at htoken
    split at htoken
    · exact ⟨_, htoken⟩
    · split at htoken
      · simp only [Target.repository?] at htoken
        repeat' split at htoken
        all_goals cases htoken
      · cases htoken
  obtain ⟨cs, hcs⟩ := hreference
  obtain ⟨name, tail, htail⟩ := hread hcs
  injection htail with _ htail
  rw [Target.nonEmpty?] at htail
  split at htail
  · cases htail
  · rename_i hne
    obtain rfl := Option.some.inj htail
    intro he
    exact hne (by simpa using congrArg String.toList he)

/-- A link becomes what its fate is. -/
theorem becomes_fate (l : Link) : l.Becomes policy r file
    ((Resolution.fate policy r file l).link l)
    (if (Resolution.fate policy r file l).isRewritten then 1 else 0)
    (Resolution.fate policy r file l).issue?.toList := by
  rw [Resolution.fate]
  cases ht : Target.ofString l.url with
  | plain url => exact .plain ht
  | repository path =>
    by_cases hp : path = none ∧ policy.repoLinkRequiresPath = true
    · obtain ⟨rfl, hp⟩ := hp
      simp only [Resolution.ofRepository, hp]
      exact .missingPath ht hp
    · have hcond : (path.isNone && policy.repoLinkRequiresPath) = false := by
        cases path <;> simp_all
      simp only [Resolution.ofRepository, hcond]
      exact .repository ht (by cases path <;> simp_all)
  | reference identifier anchor =>
    cases hx : r.get? identifier with
    | none =>
      simp only [hx, Resolution.ofRecord]
      exact .missingReference ht hx
    | some x =>
      by_cases hf : x.sourceFile = file
      · simp only [hx, Resolution.ofRecord, if_pos hf]
        exact .selfReference ht hx hf
      · have hurl : Resolution.withAnchor x.canonicalPath anchor =
            match anchor with
            | none => x.canonicalPath
            | some a => x.canonicalPath ++ "#" ++ a := by
          cases anchor with
          | none => rfl
          | some a =>
            have hne := anchor_ne_empty ht
            rw [Resolution.withAnchor]
            exact hne
        simp only [hx, Resolution.ofRecord, if_neg hf, hurl, adoptTitle_eq]
        exact .reference ht hx hf

theorem allBecome_fate (links : List Link) : AllBecome policy r file links
    (links.map fun l => (Resolution.fate policy r file l).link l)
    (links.countP fun l => (Resolution.fate policy r file l).isRewritten)
    (links.filterMap fun l => (Resolution.fate policy r file l).issue?) := by
  induction links with
  | nil => exact .nil
  | cons l rest ih =>
    have hl := AllBecome.cons (becomes_fate l) ih
    have hissues : (l :: rest).filterMap (fun l => (Resolution.fate policy r file l).issue?) =
        (Resolution.fate policy r file l).issue?.toList ++
          rest.filterMap fun l => (Resolution.fate policy r file l).issue? := by
      cases h : (Resolution.fate policy r file l).issue? <;> simp [h]
    rw [hissues, List.countP_cons, Nat.add_comm]
    exact hl

/-- A token is either rewritten or causes one issue; other links do neither. -/
theorem Becomes.count {l l' : Link} {n : Nat} {is : List Issue}
    (h : l.Becomes policy r file l' n is) : n + is.length = if l.isToken then 1 else 0 := by
  rw [isToken]
  cases h with
  | plain ht => rw [ht]; rfl
  | repository ht _ => rw [ht]; rfl
  | reference ht _ _ => rw [ht]; rfl
  | missingReference ht _ => rw [ht]; rfl
  | selfReference ht _ _ => rw [ht]; rfl
  | missingPath ht _ => rw [ht]; rfl

/-- Every token is counted once. -/
theorem AllBecome.count {links links' : List Link} {n : Nat} {is : List Issue}
    (h : AllBecome policy r file links links' n is) :
    n + is.length = links.countP isToken := by
  induction h with
  | nil => rfl
  | cons hl _ ih =>
    have hcount := hl.count
    rw [List.length_append, List.countP_cons]
    omega

end Link

/-- Every link of a loaded page is accounted for in the page and its report. -/
structure Page.Accounted (policy : Policy) (r : Registry) (before after : Page)
    (report : PageReport) : Prop where
  /-- Nothing but the links of the page changes. -/
  page : after = { before with links := after.links }
  file : report.sourceFile = before.sourceFile
  /-- The links are as they were written. -/
  written : ∀ l ∈ before.links, l = Link.ofOrigin l.origin
  /-- The rules apply link by link, and the issues of links stand in their order. -/
  links : Link.AllBecome policy r before.sourceFile before.links after.links report.rewritten
    (Issue.unresolved report.issues)
  /-- Issues of registration come first. -/
  issues : report.issues = Issue.registrations report.issues ++ Issue.unresolved report.issues
  /-- Every token is counted once. -/
  count : report.rewritten + (Issue.unresolved report.issues).length =
    before.links.countP Link.isToken

/-- A page with its outcome is accounted for, if it had issues of registration only. -/
theorem Page.accounted_outcome (policy : Policy) (r : Registry) {p : Page}
    (hp : ∀ l ∈ p.links, l = Link.ofOrigin l.origin) {is : List Issue}
    (his : ∀ i ∈ is, i.kind.isRegistration = true) :
    p.Accounted policy r (p.outcome policy r is).1 (p.outcome policy r is).2 := by
  obtain ⟨hreg, hown⟩ := Issue.of_isRegistration his
  obtain ⟨hnone, hlinks⟩ := p.unresolved_issues policy r
  have hfirst : Issue.registrations (is ++ p.issues policy r) = is := by
    rw [Issue.registrations_append, hreg, hnone, List.append_nil]
  have hrest : Issue.unresolved (is ++ p.issues policy r) = p.issues policy r := by
    rw [Issue.unresolved_append, hown, hlinks, List.nil_append]
  have hall : Link.AllBecome policy r p.sourceFile p.links _ _ _ := Link.allBecome_fate p.links
  refine ⟨rfl, rfl, hp, ?_, ?_, ?_⟩
  · simp only [outcome, hrest]
    exact hall
  · simp only [outcome, hfirst, hrest]
  · simp only [outcome, hrest]
    exact hall.count

namespace Build

variable {settings : Settings} {tree : FileTree} {r r' : Registry} {paths : List Path}
  {issues : IssueLog}

/-- What the log holds on a page is what its report says. -/
theorem Prepared.forFile_report (hd : paths.Nodup) {loaded : Loaded}
    {resolved : List (Page × PageReport)}
    (h : Prepared settings tree r paths loaded resolved r' issues) {report : PageReport}
    (hreport : report ∈ resolved.map (·.2)) :
    issues.forFile report.sourceFile = report.issues := by
  rw [h.resolved, resolution, List.map_map] at hreport
  obtain ⟨p, hp, rfl⟩ := List.mem_map.mp hreport
  change issues.forFile p.sourceFile = _
  rw [h.issues, List.filter_append, linkIssues,
    Pool.filter_issues_of_distinct (nodup_of_loads hd h.loads) hp]
  rfl

/-- The list of issues is that of the reports, in the order of their paths. -/
theorem Prepared.issues_eq (hd : paths.Nodup) (hn : ∀ p ∈ paths, p.IsNormal) {loaded : Loaded}
    {resolved : List (Page × PageReport)}
    (h : Prepared settings tree r paths loaded resolved r' issues) :
    issues.issues = ((resolved.map (·.2)).mergeSort
      fun a b => a.sourceFile.le b.sourceFile).flatMap (·.issues) := by
  have hfiles : (resolved.map (·.2)).map (·.sourceFile) = loaded.pages.map (·.sourceFile) := by
    rw [h.resolved, resolution, List.map_map, List.map_map]
    rfl
  have hnormal : ∀ file ∈ loaded.pages.map (·.sourceFile), file.IsNormal := by
    intro file hfile
    obtain ⟨p, hp, rfl⟩ := List.mem_map.mp hfile
    obtain ⟨-, -, rfl, -⟩ := loads_ok_iff.mp h.loads
    exact hn _ (Loaded.mem_of_mem_pages_among hp).1
  have hsorted : ((resolved.map (·.2)).mergeSort fun a b => a.sourceFile.le b.sourceFile).map
      (·.sourceFile) = (loaded.pages.map (·.sourceFile)).mergeSort Path.le := by
    rw [← hfiles]
    exact List.map_mergeSort fun _ _ _ _ => rfl
  rw [IssueLog.issues_eq_of_files (nodup_of_loads hd h.loads) hnormal fun _ => h.mem_pages,
    ← hsorted, List.flatMap_map]
  refine List.flatMap_congr fun report hreport => ?_
  exact h.forFile_report hd ((List.mergeSort_perm _ _).mem_iff.mp hreport)

/-- The pages that a build gives are accounted for by the registry that registration leaves. -/
theorem Prepared.accounted {loaded : Loaded} {resolved : List (Page × PageReport)}
    (h : Prepared settings tree r paths loaded resolved r' issues) :
    List.Forall₂ (fun p x => p.Accounted settings.policy r' x.1 x.2)
      (paths.filterMap (Page.loaded? tree settings.contentRoot)) resolved := by
  obtain ⟨-, -, rfl, -⟩ := loads_ok_iff.mp h.loads
  rw [h.resolved, h.registry, resolution, List.forall₂_map_right_iff]
  refine List.forall₂_same.mpr fun p hp => Page.accounted_outcome _ _ (fun l hl => ?_) ?_
  · rw [(Page.of_load (Loaded.of_mem_among.1 p hp)).2] at hl
    exact Link.of_mem_find hl
  · exact fun i hi => (Registered.of_mem_all (List.mem_filter.mp hi).1).2

/-- When the phases of a build from distinct paths are completed, on any session, then every link
of every loaded page is accounted for by the registry that registration leaves. The result of the
build has these pages and reports, and lists the issues of all reports in the order of their
paths. -/
theorem run_accounts (hd : paths.Nodup) (hn : ∀ p ∈ paths, p.IsNormal)
    (σ : Scheduler settings.policy settings.workers) (w : Workspace)
    {loaded : Loaded} {resolved : List (Page × PageReport)}
    (h : (w.perform (prepare σ.resolve settings paths)).1 = .ok (loaded, resolved)) :
    let pages := paths.filterMap (Page.loaded? w.tree settings.contentRoot)
    let registered := (w.session.perform (registerAll settings.policy pages)).2.registry
    registered.frozen = true ∧
      List.Forall₂ (fun p x => p.Accounted settings.policy registered x.1 x.2) pages resolved ∧
      ∀ (write : Bool) (result : BuildResult),
        (w.perform (runWith σ.resolve settings (some paths) write)).1 = .ok result →
          result.pages = resolved.map (·.1) ∧ result.reports = resolved.map (·.2) ∧
            result.issues = (result.reports.mergeSort
              fun a b => a.sourceFile.le b.sourceFile).flatMap (·.issues) := by
  intro pages registered
  obtain ⟨-, hprepare⟩ := prepares σ w paths
  rw [h] at hprepare
  have hp := hprepare.prepared hd
  obtain ⟨-, -, rfl, -⟩ := loads_ok_iff.mp hp.loads
  obtain ⟨log, hregister⟩ := Session.gives_registerAll settings.policy pages w.session
  have hregistered : registered =
      (w.perform (prepare σ.resolve settings paths)).2.session.registry := by
    rw [hp.registry]
    change (w.session.perform (registerAll settings.policy pages)).2.registry = _
    rw [hregister]
    rfl
  refine ⟨?_, hregistered ▸ hp.accounted, fun write result hrun => ?_⟩
  · rw [hregistered, hp.registry]
    exact Registered.frozen_all hp.registers
  · have hissues := hp.issues_eq hd hn
    rw [perform_runWith] at hrun
    rcases hv : w.perform (prepare σ.resolve settings paths) with ⟨x, v⟩
    rw [hv] at h hrun hissues
    subst h
    obtain ⟨log, hpublish⟩ := gives_publish settings write v
      (Loaded.among w.tree settings.contentRoot paths) resolved
    simp only [hpublish] at hrun
    obtain ⟨files, -, rfl⟩ := map_summary_eq_ok.mp hrun
    exact ⟨rfl, rfl, hissues⟩

theorem run_accounts_sample : ∃ resolved,
    (Workspace.perform ⟨Sample.tree, .empty⟩
        (prepare (resolveAll Sample.settings.policy) Sample.settings Sample.paths)).1 =
      .ok (Loaded.among Sample.tree Sample.settings.contentRoot Sample.paths, resolved) ∧
    ∃ registry : Registry, registry.frozen = true ∧
      List.Forall₂ (fun p x => p.Accounted Sample.settings.policy registry x.1 x.2)
        (Sample.paths.filterMap (Page.loaded? Sample.tree Sample.settings.contentRoot))
        resolved := by
  have hd : Sample.paths.Nodup := by decide
  have hn : ∀ p ∈ Sample.paths, p.IsNormal := by decide
  let σ : Scheduler Sample.settings.policy Sample.settings.workers := .sequential _ _
  have hcomplete : Completes Sample.settings true Sample.tree .empty Sample.paths :=
    sample_completes Nat.two_pos
  have hload := loads_ok_iff.mpr ⟨hcomplete.workers, hcomplete.loads, rfl, nofun⟩
  have hplan := plan_ok_of_permissive rfl hload hcomplete.registers
  have h := ((prepares σ ⟨Sample.tree, .empty⟩ Sample.paths).2.eq_plan hd).trans hplan
  obtain ⟨hfrozen, hall, -⟩ := run_accounts hd hn σ ⟨Sample.tree, .empty⟩ h
  exact ⟨_, h, _, hfrozen, hall⟩

end Build

end Crosslink
