import Crosslink.Proofs.Pool.Invariant

/-!
# The outcome of a pool

What a whole second phase comes to on a frozen registry does not depend on the order of the
steps. It ends with the first issue, in the order of pages and links, if that ends the build;
otherwise every page takes its resolved form. The log on a page is determined when no other
page has the same file, and where pages share a file its first issue still is.
-/

namespace Crosslink

variable {policy : Policy} {workers : Nat} {r : Registry} {K : Telling}
  {Apart : Page → Page → Prop}

/-- The page as resolved, with a report whose issues are told of it. -/
structure Task.Settled (policy : Policy) (r : Registry) (K : Telling) (p : Page)
    (x : Page × PageReport) : Prop where
  page : x.1 = p.resolved policy r
  file : x.2.sourceFile = p.sourceFile
  rewritten : x.2.rewritten = p.rewritten policy r
  issues : K p x.2.issues (p.issues policy r)

/-- Tasks in accord with their pages come to all pages as resolved, or to the first issue. -/
theorem Task.collect?_of_accords (log : Page → List Issue) {pages : List Page}
    {tasks : List Task}
    (h : List.Forall₂ (fun p t => t.Accords policy r K (log p) p) pages tasks)
    {outcome : Except Failure (List (Page × PageReport))}
    (hc : Task.collect? tasks = some outcome) :
    (∃ resolved, outcome = .ok resolved ∧ List.Forall₂ (Task.Settled policy r K) pages resolved ∧
        ∀ p ∈ pages, (policy.strict = true → p.issues policy r = []) ∧
          K p (log p) (p.issues policy r)) ∨
      (policy.strict = true ∧ ∃ i, outcome = .error (.error (.buildAborted i)) ∧
        (pages.flatMap fun p => p.issues policy r).head? = some i) := by
  induction h generalizing outcome with
  | nil =>
    obtain rfl := Option.some.inj hc
    exact .inl ⟨[], rfl, .nil, by simp⟩
  | @cons p t pages tasks ht _ ih =>
    cases t with
    | waiting _ => cases hc
    | running _ _ _ _ => cases hc
    | cancelled => cases hc
    | failed f =>
      obtain ⟨hstrict, i, hi, rfl⟩ := ht
      rw [Task.collect?] at hc
      split at hc
      · obtain rfl := Option.some.inj hc
        refine .inr ⟨hstrict, i, rfl, ?_⟩
        rw [List.flatMap_cons, List.head?_append, hi]
        rfl
      · cases hc
    | finished q report =>
      obtain ⟨hq, hfile, hn, hstrict, hreport, hk⟩ := ht
      rw [Task.collect?, Option.map_eq_some_iff] at hc
      obtain ⟨later, hlater, rfl⟩ := hc
      rcases ih hlater with ⟨resolved, rfl, hresolved, hall⟩ | ⟨hs, i, rfl, hi⟩
      · refine .inl ⟨(q, report) :: resolved, rfl, .cons ⟨hq, hfile, hn, hreport⟩ hresolved, ?_⟩
        rintro p' (_ | ⟨_, hp'⟩)
        · exact ⟨hstrict, hk⟩
        · exact hall p' hp'
      · refine .inr ⟨hs, i, rfl, ?_⟩
        rw [List.flatMap_cons, hstrict hs]
        exact hi

namespace Pool

/-- A second phase that went through, with the pages as resolved and the session after it. -/
structure Completed (policy : Policy) (r : Registry) (K : Telling) (pages : List Page)
    (before : IssueLog) (resolved : List (Page × PageReport)) (after : IssueLog) : Prop where
  settled : List.Forall₂ (Task.Settled policy r K) pages resolved
  strict : policy.strict = true → ∀ p ∈ pages, p.issues policy r = []
  logs : ∀ p ∈ pages, K p (after.forFile p.sourceFile) (p.issues policy r)
  others : ∀ file, (∀ p ∈ pages, p.sourceFile ≠ file) → after.forFile file = before.forFile file

/-- Whatever the order of the steps, the phase goes through or ends with the first issue. -/
theorem Resolves.completed_or_aborted {s s' : Session} (hK : K.Stable policy s.registry Apart)
    (hsymm : Std.Symm Apart) (hf : s.registry.frozen = true) {pages : List Page}
    (hpages : pages.Pairwise Apart)
    (hstart : ∀ p ∈ pages, K p (s.issues.forFile p.sourceFile) [])
    {outcome : Except Failure (List (Page × PageReport))}
    (h : Resolves policy workers pages s outcome s') :
    (∃ resolved, outcome = .ok resolved ∧
        Completed policy s.registry K pages s.issues resolved s'.issues) ∨
      (policy.strict = true ∧ ∃ i, outcome = .error (.error (.buildAborted i)) ∧
        (pages.flatMap fun p => p.issues policy s.registry).head? = some i) := by
  obtain ⟨tasks, hreach, hcollect⟩ := h
  have hinit : Sound policy s.registry K pages s.issues (start pages s) := by
    refine ⟨rfl, ?_, fun _ _ => rfl⟩
    rw [start, List.forall₂_map_right_iff, List.forall₂_same]
    exact fun p hp => ⟨rfl, hstart p hp⟩
  have hsound : ∀ b, Reaches policy workers (start pages s) b →
      b.Sound policy s.registry K pages s.issues := by
    intro b hb
    induction hb with
    | refl => exact hinit
    | tail _ hstep ih => exact hstep.sound hK hsymm hf hpages ih
  have hend := hsound _ hreach
  rcases Task.collect?_of_accords (fun p => s'.issues.forFile p.sourceFile) hend.tasks hcollect
    with ⟨resolved, ho, hresolved, hall⟩ | habort
  · exact .inl ⟨resolved, ho, hresolved, fun hs p hp => (hall p hp).1 hs,
      fun p hp => (hall p hp).2, hend.others⟩
  · exact .inr habort

end Pool

/-- The log holds on a page what it held before and what its worker has reported. -/
def Telling.alone (before : IssueLog) : Telling :=
  fun p log told => log = before.forFile p.sourceFile ++ told

/-- The log holds on a page the issues of registration that it held before, and its others begin
with the first issue of the page, if anything was reported. -/
def Telling.shared (policy : Policy) (r : Registry) (before : IssueLog) : Telling :=
  fun p log told => Issue.registrations log = before.forFile p.sourceFile ∧
    (Issue.unresolved log = [] → told = []) ∧
    (Issue.unresolved log = [] ∨ (Issue.unresolved log).head? = (p.issues policy r).head?)

theorem Telling.stable_alone (policy : Policy) (r : Registry) (before : IssueLog) :
    (Telling.alone before).Stable policy r fun p q => p.sourceFile ≠ q.sourceFile where
  own _ hk := by
    rw [alone] at hk ⊢
    rw [hk, List.append_assoc]
  other hpq _ _ hk _ := by
    rw [alone] at hk ⊢
    rw [if_neg hpq, List.append_nil, hk]

/-- The first report on a page is of its first issue, whoever makes it. -/
theorem Telling.shared_append {before : IssueLog} {p : Page} {log told rest : List Issue}
    {i : Issue} (hissues : p.issues policy r = told ++ i :: rest)
    (h : shared policy r before p log told) :
    Issue.registrations (log ++ [i]) = before.forFile p.sourceFile ∧
      Issue.unresolved (log ++ [i]) ≠ [] ∧
      (Issue.unresolved (log ++ [i])).head? = (p.issues policy r).head? := by
  obtain ⟨hreg, hnone, hhead⟩ := h
  have hi : i ∈ p.issues policy r := by simp [hissues]
  have hkind : ∀ j ∈ [i], j.kind.isRegistration = false := fun j hj =>
    List.mem_singleton.mp hj ▸ (Page.of_mem_issuesOf hi).2
  obtain ⟨hregs, hown⟩ := Issue.of_not_isRegistration hkind
  rw [Issue.registrations_append, Issue.unresolved_append, hregs, hown, List.append_nil]
  refine ⟨hreg, by simp, ?_⟩
  cases hlog : Issue.unresolved log with
  | nil =>
    rw [hissues, hnone hlog]
    rfl
  | cons j rest =>
    rw [hlog] at hhead
    exact hhead.resolve_left (by simp)

theorem Telling.stable_shared (policy : Policy) (r : Registry) (before : IssueLog) :
    (Telling.shared policy r before).Stable policy r
      fun p q => p.sourceFile = q.sourceFile → p = q where
  own hissues hk := by
    obtain ⟨hreg, hne, hhead⟩ := shared_append hissues hk
    exact ⟨hreg, fun h => absurd h hne, .inr hhead⟩
  other := by
    rintro p q log log' told told' rest i hpq hissues hk hk' hlog
    by_cases hfile : p.sourceFile = q.sourceFile
    · -- both workers have the same page
      obtain rfl := hpq hfile
      obtain rfl := hlog rfl
      obtain ⟨hreg, hne, hhead⟩ := shared_append hissues hk
      rw [if_pos rfl]
      exact ⟨hreg, fun h => absurd h hne, .inr hhead⟩
    · rwa [if_neg hfile, List.append_nil]

/-- What is told of a page at its end begins with the page's first issue. -/
theorem Telling.head?_of_shared {before : IssueLog} {p : Page} {log : List Issue}
    (h : Telling.shared policy r before p log (p.issues policy r)) :
    (Issue.unresolved log).head? = (p.issues policy r).head? := by
  obtain ⟨-, hnone, hlog | hhead⟩ := h
  · rw [hnone hlog, hlog]
  · exact hhead

namespace Pool

/-- A list that another settles element by element is its image. -/
private theorem eq_map_of_forall₂ {α β : Type} {R : α → β → Prop} {f : α → β} {l : List α}
    {l' : List β} (h : List.Forall₂ R l l') (hf : ∀ a ∈ l, ∀ b, R a b → b = f a) :
    l' = l.map f := by
  induction h with
  | nil => rfl
  | @cons a b l l' hab _ ih =>
    rw [hf a List.mem_cons_self b hab, ih fun a ha => hf a (List.mem_cons_of_mem _ ha)]
    rfl

/-- Pages settled with logs of their own are the pages with their outcomes. -/
theorem map_outcome_of_settled {before : IssueLog} {pages : List Page}
    {resolved : List (Page × PageReport)}
    (h : List.Forall₂ (Task.Settled policy r (Telling.alone before)) pages resolved) :
    resolved = pages.map fun p => p.outcome policy r (before.forFile p.sourceFile) := by
  refine eq_map_of_forall₂ h fun p _ x hx => ?_
  obtain ⟨page, file, issues, rewritten⟩ := x
  obtain ⟨rfl, rfl, rfl, rfl⟩ := hx
  rfl

/-- However pages share files, the first issue of links in the reports is the first of all. -/
theorem head?_unresolved_of_settled {before : IssueLog} {pages : List Page}
    {resolved : List (Page × PageReport)}
    (h : List.Forall₂ (Task.Settled policy r (Telling.shared policy r before)) pages resolved) :
    (resolved.flatMap fun x => Issue.unresolved x.2.issues).head? =
      (pages.flatMap fun p => p.issues policy r).head? := by
  induction h with
  | nil => rfl
  | cons hx _ ih =>
    rw [List.flatMap_cons, List.flatMap_cons, List.head?_append, List.head?_append, ih,
      Telling.head?_of_shared hx.issues]

/-- However pages share files, the log holds the issues of registration that it held before. -/
theorem Completed.registrations {before after : IssueLog} {pages : List Page}
    {resolved : List (Page × PageReport)}
    (h : Completed policy r (Telling.shared policy r before) pages before resolved after)
    (hbefore : ∀ file, Issue.registrations (before.forFile file) = before.forFile file)
    (file : Path) : Issue.registrations (after.forFile file) = before.forFile file := by
  by_cases hfile : ∃ p ∈ pages, p.sourceFile = file
  · obtain ⟨p, hp, rfl⟩ := hfile
    exact (h.logs p hp).1
  · rw [h.others file fun p hp e => hfile ⟨p, hp, e⟩, hbefore]

/-- Without any issue, pages are the pages with their outcomes, however they share files. -/
theorem Completed.eq_outcomes {before after : IssueLog} {pages : List Page}
    {resolved : List (Page × PageReport)}
    (h : Completed policy r (Telling.shared policy r before) pages before resolved after)
    (hbefore : ∀ file, before.forFile file = [])
    (hnone : (pages.flatMap fun p => p.issues policy r) = []) :
    resolved = pages.map (Page.outcome policy r []) ∧ ∀ file, after.forFile file = [] := by
  have hpage : ∀ p ∈ pages, p.issues policy r = [] := List.flatMap_eq_nil_iff.mp hnone
  have hlog : ∀ p ∈ pages, ∀ log, Telling.shared policy r before p log (p.issues policy r) →
      log = [] := by
    intro p hp log hk
    have hhead := Telling.head?_of_shared hk
    rw [hpage p hp] at hhead
    exact Issue.eq_nil (hk.1.trans (hbefore _)) (List.head?_eq_none_iff.mp hhead)
  refine ⟨eq_map_of_forall₂ h.settled fun p hp x hx => ?_, fun file => ?_⟩
  · obtain ⟨page, file, issues, rewritten⟩ := x
    obtain ⟨rfl, rfl, rfl, hk⟩ := hx
    obtain rfl := hlog p hp issues hk
    rw [Page.outcome, hpage p hp]
    rfl
  · by_cases hfile : ∃ p ∈ pages, p.sourceFile = file
    · obtain ⟨p, hp, rfl⟩ := hfile
      exact hlog p hp _ (h.logs p hp)
    · rw [h.others file fun p hp e => hfile ⟨p, hp, e⟩, hbefore]

/-- No page has issues of another file. -/
theorem filter_issues_of_other {pages : List Page} {file : Path}
    (h : ∀ p ∈ pages, p.sourceFile ≠ file) :
    (pages.flatMap fun p => p.issues policy r).filter
      (fun i => decide (i.sourceFile = file)) = [] := by
  rw [List.filter_eq_nil_iff]
  intro i hi
  obtain ⟨p, hp, hip⟩ := List.mem_flatMap.mp hi
  simpa [(Page.of_mem_issuesOf hip).1] using h p hp

/-- Where every page has a file of its own, only its worker reports on it. -/
theorem Resolves.completed_or_aborted_of_distinct {s s' : Session}
    (hf : s.registry.frozen = true) {pages : List Page}
    (hpages : (pages.map (·.sourceFile)).Nodup)
    {outcome : Except Failure (List (Page × PageReport))}
    (h : Resolves policy workers pages s outcome s') :
    (∃ resolved, outcome = .ok resolved ∧
        Completed policy s.registry (.alone s.issues) pages s.issues resolved s'.issues) ∨
      (policy.strict = true ∧ ∃ i, outcome = .error (.error (.buildAborted i)) ∧
        (pages.flatMap fun p => p.issues policy s.registry).head? = some i) :=
  h.completed_or_aborted (Telling.stable_alone policy s.registry s.issues) ⟨fun _ _ => Ne.symm⟩
    hf (List.pairwise_map.mp hpages) fun _ _ => (List.append_nil _).symm

/-- Where every page has a file of its own, the outcome is a function of the frozen registry and
the issues so far: all pages with their reports, or the first issue. -/
theorem Resolves.outcome_of_distinct {s s' : Session} (hf : s.registry.frozen = true)
    {pages : List Page} (hpages : (pages.map (·.sourceFile)).Nodup)
    {outcome : Except Failure (List (Page × PageReport))}
    (h : Resolves policy workers pages s outcome s') :
    outcome = (Session.verdict policy.strict
      (pages.flatMap fun p => p.issues policy s.registry)).map fun _ =>
        pages.map fun p => p.outcome policy s.registry (s.issues.forFile p.sourceFile) := by
  rcases h.completed_or_aborted_of_distinct hf hpages with
    ⟨resolved, rfl, hdone⟩ | ⟨hstrict, i, rfl, hi⟩
  · obtain rfl := map_outcome_of_settled hdone.settled
    rw [Session.verdict_eq_ok_iff.mpr fun hs => List.flatMap_eq_nil_iff.mpr (hdone.strict hs)]
    rfl
  · rw [Session.verdict_eq_error_iff.mpr ⟨hstrict, i, hi, rfl⟩]
    rfl

/-- Of the issues of pages with files of their own, those of a file are those of its page. -/
theorem filter_issues_of_distinct {pages : List Page} (hpages : (pages.map (·.sourceFile)).Nodup)
    {p : Page} (hp : p ∈ pages) :
    (pages.flatMap fun p => p.issues policy r).filter
      (fun i => decide (i.sourceFile = p.sourceFile)) = p.issues policy r := by
  have hown : ∀ q : Page, q.sourceFile = p.sourceFile → (q.issues policy r).filter
      (fun i => decide (i.sourceFile = p.sourceFile)) = q.issues policy r := by
    intro q hq
    rw [List.filter_eq_self]
    exact fun i hi => by simpa [hq] using (Page.of_mem_issuesOf hi).1
  induction pages with
  | nil => cases hp
  | cons q rest ih =>
    obtain ⟨hq, hrest⟩ := List.nodup_cons.mp hpages
    rw [List.flatMap_cons, List.filter_append]
    rcases List.mem_cons.mp hp with rfl | hp
    · have hne : ∀ q ∈ rest, q.sourceFile ≠ p.sourceFile :=
        fun q hmem e => hq (List.mem_map.mpr ⟨q, hmem, e⟩)
      rw [hown p rfl, filter_issues_of_other hne, List.append_nil]
    · have hne : ∀ q' ∈ [q], q'.sourceFile ≠ p.sourceFile := by
        intro q' hmem e
        rw [List.mem_singleton.mp hmem] at e
        exact hq (List.mem_map.mpr ⟨p, hp, e.symm⟩)
      rw [← List.flatMap_singleton (fun p => p.issues policy r) q, filter_issues_of_other hne,
        List.nil_append, ih hrest hp]

/-- After a phase that went through, the log holds on each file what it held before and the issues
of its page. -/
theorem Resolves.forFile_of_distinct {s s' : Session} (hf : s.registry.frozen = true)
    {pages : List Page} (hpages : (pages.map (·.sourceFile)).Nodup)
    {resolved : List (Page × PageReport)}
    (h : Resolves policy workers pages s (.ok resolved) s') (file : Path) :
    s'.issues.forFile file = s.issues.forFile file ++
      (pages.flatMap fun p => p.issues policy s.registry).filter
        fun i => decide (i.sourceFile = file) := by
  rcases h.completed_or_aborted_of_distinct hf hpages with
    ⟨resolved', -, hdone⟩ | ⟨-, i, habort, -⟩
  · by_cases hfile : ∃ p ∈ pages, p.sourceFile = file
    · obtain ⟨p, hp, rfl⟩ := hfile
      rw [filter_issues_of_distinct hpages hp]
      exact hdone.logs p hp
    · have hother : ∀ p ∈ pages, p.sourceFile ≠ file := fun p hp e => hfile ⟨p, hp, e⟩
      rw [filter_issues_of_other hother, List.append_nil]
      exact hdone.others file hother
  · cases habort

end Pool

end Crosslink
