import Mathlib.Data.List.Forall2
import Crosslink.Proofs.Pool.Basic
import Crosslink.Proofs.Session.Fate

/-!
# The invariant of a pool

Whatever the order of the steps, a task has settled the first links of its page as their
fates are, and has failed only at the first issue of its page. What the log holds on a page
is described by a relation to the issues that the page's worker has reported: any relation
will do that these reports keep (`Telling.Stable`), so the same invariant serves pages with
logs of their own and pages that share one.
-/

namespace Crosslink

/-- A relation between what the log holds on a page and what a worker has reported of it. -/
abbrev Telling := Page → List Issue → List Issue → Prop

/-- The relation survives the reports of the page's own worker and those of the others, where
two workers have pages of which some relation holds. -/
structure Telling.Stable (policy : Policy) (r : Registry) (Apart : Page → Page → Prop)
    (K : Telling) : Prop where
  own : ∀ {p : Page} {log told rest : List Issue} {i : Issue},
    p.issues policy r = told ++ i :: rest → K p log told → K p (log ++ [i]) (told ++ [i])
  other : ∀ {p q : Page} {log log' told told' rest : List Issue} {i : Issue}, Apart p q →
    p.issues policy r = told ++ i :: rest → K p log told → K q log' told' →
    (p.sourceFile = q.sourceFile → log = log') →
    K q (log' ++ if p.sourceFile = q.sourceFile then [i] else []) told'

namespace Task

/-- How far a task may have come with its page. -/
def Accords (policy : Policy) (r : Registry) (K : Telling) (log : List Issue) (p : Page) :
    Task → Prop
  | .waiting q => q = p ∧ K p log []
  | .running q done todo n => q = p ∧ ∃ settled, p.links = settled ++ todo ∧
      done = p.linksAfter policy r settled ∧ n = p.rewrittenAmong policy r settled ∧
      (policy.strict = true → p.issuesOf policy r settled = []) ∧
      K p log (p.issuesOf policy r settled)
  | .finished q report => q = p.resolved policy r ∧ report.sourceFile = p.sourceFile ∧
      report.rewritten = p.rewritten policy r ∧
      (policy.strict = true → p.issues policy r = []) ∧
      K p report.issues (p.issues policy r) ∧ K p log (p.issues policy r)
  | .failed f => policy.strict = true ∧
      ∃ i, (p.issues policy r).head? = some i ∧ f = .error (.buildAborted i)
  | .cancelled => policy.strict = true

variable {policy : Policy} {r : Registry} {K : Telling} {Apart : Page → Page → Prop}

/-- One link at a frozen registry: its fate, or the end of the work on its page. -/
theorem advance_link (policy : Policy) {s : Session} (h : s.registry.frozen = true) (p : Page)
    (settled rest : List Link) (l : Link) :
    ∃ log, (Task.running p (p.linksAfter policy s.registry settled) (l :: rest)
        (p.rewrittenAmong policy s.registry settled)).advance policy s =
      (match Session.verdict policy.strict
          (Resolution.fate policy s.registry p.sourceFile l).issue?.toList with
        | .ok _ => .running p (p.linksAfter policy s.registry (settled ++ [l])) rest
            (p.rewrittenAmong policy s.registry (settled ++ [l]))
        | .error f => .failed f,
      ⟨s.registry,
        s.issues.addAll (Resolution.fate policy s.registry p.sourceFile l).issue?.toList,
        log⟩) := by
  obtain ⟨log, hl⟩ := Session.gives_resolveTarget policy h p.sourceFile l
  refine ⟨log, ?_⟩
  have hcount : (if (Resolution.fate policy s.registry p.sourceFile l).isRewritten
      then p.rewrittenAmong policy s.registry settled + 1
      else p.rewrittenAmong policy s.registry settled) =
      p.rewrittenAmong policy s.registry (settled ++ [l]) := by
    rw [Page.rewrittenAmong, Page.rewrittenAmong, List.countP_append, List.countP_singleton]
    split <;> rfl
  have hlinks : p.linksAfter policy s.registry (settled ++ [l]) =
      p.linksAfter policy s.registry settled ++
        [(Resolution.fate policy s.registry p.sourceFile l).link l] := List.map_append
  rw [advance, hl]
  cases Session.verdict policy.strict
    (Resolution.fate policy s.registry p.sourceFile l).issue?.toList with
  | error f => rfl
  | ok _ =>
    simp only [Except.map]
    rw [hcount, hlinks]

/-- The log of a page after the issue of a link. -/
theorem forFile_fate {p : Page} {l : Link} {i : Issue}
    (h : (Resolution.fate policy r p.sourceFile l).issue? = some i) (log : IssueLog) (file : Path) :
    (log.addAll [i]).forFile file =
      log.forFile file ++ if p.sourceFile = file then [i] else [] := by
  rw [IssueLog.forFile_addAll, List.filter_singleton, (Resolution.of_issue?_fate h).1]
  by_cases hf : p.sourceFile = file <;> simp [hf]

/-- A worker's own step keeps its task in accord with its page. -/
theorem Accords.advance (hK : K.Stable policy r Apart) {s : Session} (hs : s.registry = r)
    (hf : r.frozen = true) {p : Page} {t : Task} (ht : t.isRunning = true)
    (h : t.Accords policy r K (s.issues.forFile p.sourceFile) p) :
    (t.advance policy s).1.Accords policy r K
      ((t.advance policy s).2.issues.forFile p.sourceFile) p := by
  subst hs
  cases t with
  | running q done todo n =>
    obtain ⟨rfl, settled, hlinks, rfl, rfl, hstrict, hlog⟩ := h
    cases todo with
    | nil =>
      -- the report is made of what the log holds on the page
      rw [List.append_nil] at hlinks
      subst hlinks
      exact ⟨rfl, rfl, rfl, hstrict, hlog, hlog⟩
    | cons l rest =>
      have hsplit := Page.issues_split policy s.registry hlinks
      have hmore := q.issuesOf_append policy s.registry settled [l]
      have hlinks' : q.links = (settled ++ [l]) ++ rest := by simp [hlinks]
      obtain ⟨messages, ha⟩ := advance_link policy hf q settled rest l
      rw [ha]
      cases hi : (Resolution.fate policy s.registry q.sourceFile l).issue? with
      | none =>
        rw [Page.issuesOf_cons, hi] at hmore
        have hsame : q.issuesOf policy s.registry (settled ++ [l]) =
            q.issuesOf policy s.registry settled := hmore.trans (List.append_nil _)
        refine ⟨rfl, settled ++ [l], hlinks', rfl, rfl, ?_, ?_⟩
        · rwa [hsame]
        · rwa [hsame]
      | some i =>
        rw [Page.issuesOf_cons, hi] at hmore
        rw [hi, Option.toList_some, List.singleton_append] at hsplit
        simp only [Option.toList_some, forFile_fate hi, if_true]
        by_cases hp : policy.strict = true
        · simp only [hp, Session.verdict]
          refine ⟨hp, i, ?_, rfl⟩
          rw [hsplit, hstrict hp]
          rfl
        · simp only [hp, Session.verdict_permissive]
          refine ⟨rfl, settled ++ [l], hlinks', rfl, rfl, fun h => absurd h hp, ?_⟩
          rw [hmore]
          exact hK.own hsplit hlog
  | _ => cases ht

/-- What a step of a worker adds to the log: nothing, or the next issue of its page. -/
theorem Accords.told {s : Session} (hs : s.registry = r) (hf : r.frozen = true) {p : Page}
    {t : Task} (ht : t.isRunning = true)
    (h : t.Accords policy r K (s.issues.forFile p.sourceFile) p) :
    (∀ file, (t.advance policy s).2.issues.forFile file = s.issues.forFile file) ∨
      ∃ told i rest, p.issues policy r = told ++ i :: rest ∧
        K p (s.issues.forFile p.sourceFile) told ∧
        ∀ file, (t.advance policy s).2.issues.forFile file =
          s.issues.forFile file ++ if p.sourceFile = file then [i] else [] := by
  subst hs
  cases t with
  | running q done todo n =>
    obtain ⟨rfl, settled, hlinks, rfl, rfl, -, hlog⟩ := h
    cases todo with
    | nil => exact .inl fun _ => rfl
    | cons l rest =>
      obtain ⟨messages, ha⟩ := advance_link policy hf q settled rest l
      rw [ha]
      cases hi : (Resolution.fate policy s.registry q.sourceFile l).issue? with
      | none => exact .inl fun _ => rfl
      | some i =>
        refine .inr ⟨q.issuesOf policy s.registry settled, i, q.issuesOf policy s.registry rest,
          ?_, hlog, fun file => forFile_fate hi s.issues file⟩
        rw [Page.issues_split policy s.registry hlinks, hi]
        rfl
  | _ => cases ht

/-- A task stays in accord with its page while the log grows as the relation allows. -/
theorem Accords.of_log {log log' : List Issue} {p : Page} {t : Task}
    (hlog : ∀ told, K p log told → K p log' told) (h : t.Accords policy r K log p) :
    t.Accords policy r K log' p := by
  cases t with
  | waiting _ => exact ⟨h.1, hlog _ h.2⟩
  | running _ _ _ _ =>
    obtain ⟨hq, settled, hlinks, hdone, hn, hstrict, hk⟩ := h
    exact ⟨hq, settled, hlinks, hdone, hn, hstrict, hlog _ hk⟩
  | finished _ _ =>
    obtain ⟨hq, hfile, hn, hstrict, hreport, hk⟩ := h
    exact ⟨hq, hfile, hn, hstrict, hreport, hlog _ hk⟩
  | failed _ => exact h
  | cancelled => exact h

/-- A step of one worker keeps the tasks of the others in accord with their pages. -/
theorem Accords.other (hK : K.Stable policy r Apart) {s : Session} (hs : s.registry = r)
    (hf : r.frozen = true) {p q : Page} {t u : Task} (hpq : Apart p q)
    (ht : t.isRunning = true) (h : t.Accords policy r K (s.issues.forFile p.sourceFile) p)
    (hu : u.Accords policy r K (s.issues.forFile q.sourceFile) q) :
    u.Accords policy r K ((t.advance policy s).2.issues.forFile q.sourceFile) q := by
  rcases h.told hs hf ht with hsame | ⟨told, i, rest, hissues, hlog, hmore⟩
  · rwa [hsame]
  · rw [hmore]
    exact hu.of_log fun told' hk => hK.other hpq hissues hlog hk fun e => by rw [e]

end Task

theorem Task.registry_advance (policy : Policy) (s : Session) (t : Task) :
    (t.advance policy s).2.registry = s.registry := by
  cases t with
  | running page done todo n =>
    cases todo with
    | nil => rfl
    | cons l rest =>
      have h := Session.registry_resolveTarget policy s (.ofString l.url) page.sourceFile l
      rw [Task.advance]
      rcases hl : s.perform (Session.resolveTarget policy (.ofString l.url) page.sourceFile l) with
        ⟨f | outcome, s'⟩ <;> rwa [hl] at h
  | _ => rfl

namespace Pool

variable {policy : Policy} {workers : Nat} {r : Registry} {K : Telling}
  {Apart : Page → Page → Prop}

/-- No step of a pool changes the registry. -/
theorem Step.registry {a b : Pool} (h : Step policy workers a b) :
    b.session.registry = a.session.registry := by
  cases h with
  | start _ _ => rfl
  | work _ => exact Task.registry_advance _ _ _
  | cancel _ => rfl

/-- The second phase leaves the registry alone, however it goes and ends. -/
theorem Resolves.registry {pages : List Page} {s s' : Session}
    {outcome : Except Failure (List (Page × PageReport))}
    (h : Resolves policy workers pages s outcome s') : s'.registry = s.registry := by
  obtain ⟨tasks, hreach, -⟩ := h
  have hkept : ∀ b, Reaches policy workers (start pages s) b →
      b.session.registry = s.registry := by
    intro b hb
    induction hb with
    | refl => rfl
    | tail _ hstep ih => exact hstep.registry.trans ih
  exact hkept _ hreach

/-- The invariant of a pool that began with some pages and some issues. -/
structure Sound (policy : Policy) (r : Registry) (K : Telling) (pages : List Page)
    (before : IssueLog) (pool : Pool) : Prop where
  registry : pool.session.registry = r
  tasks : List.Forall₂
    (fun p t => t.Accords policy r K (pool.session.issues.forFile p.sourceFile) p) pages pool.tasks
  others : ∀ file, (∀ p ∈ pages, p.sourceFile ≠ file) →
    pool.session.issues.forFile file = before.forFile file

/-- A list related to two lists in a row splits into parts related to each. -/
theorem forall₂_append_cons {α β : Type} {R : α → β → Prop} {l : List α} {b : β}
    {before after : List β} (h : List.Forall₂ R l (before ++ b :: after)) :
    ∃ l₁ a l₂, l = l₁ ++ a :: l₂ ∧ List.Forall₂ R l₁ before ∧ R a b ∧ List.Forall₂ R l₂ after := by
  have htake := List.forall₂_take_append l before (b :: after) h
  have hdrop := List.forall₂_drop_append l before (b :: after) h
  obtain ⟨a, l₂, hab, hl₂, hl⟩ := List.forall₂_cons_right_iff.mp hdrop
  refine ⟨l.take before.length, a, l₂, ?_, htake, hab, hl₂⟩
  rw [← hl, List.take_append_drop]

/-- Every step keeps the invariant. -/
theorem Step.sound (hK : K.Stable policy r Apart) (hsymm : Std.Symm Apart)
    (hf : r.frozen = true) {pages : List Page} (hpages : pages.Pairwise Apart)
    {before : IssueLog} {a b : Pool} (hstep : Step policy workers a b)
    (h : a.Sound policy r K pages before) : b.Sound policy r K pages before := by
  cases hstep with
  | @start front back page s _ _ =>
    obtain ⟨l₁, p, l₂, rfl, h₁, hp, h₂⟩ := forall₂_append_cons h.tasks
    refine ⟨h.registry, List.rel_append h₁ (.cons ?_ h₂), h.others⟩
    obtain ⟨rfl, hlog⟩ := hp
    exact ⟨rfl, [], rfl, rfl, rfl, fun _ => rfl, hlog⟩
  | @work front back t s ht =>
    obtain ⟨l₁, p, l₂, rfl, h₁, hp, h₂⟩ := forall₂_append_cons h.tasks
    obtain ⟨-, hapart₂, hapart₁⟩ := List.pairwise_append.mp hpages
    have hother : ∀ {l : List Page} {ts : List Task}, (∀ q ∈ l, Apart p q) →
        List.Forall₂ (fun p t => t.Accords policy r K (s.issues.forFile p.sourceFile) p) l ts →
        List.Forall₂ (fun p u => u.Accords policy r K
          ((t.advance policy s).2.issues.forFile p.sourceFile) p) l ts := by
      intro l ts hl hts
      induction hts with
      | nil => exact .nil
      | cons hq _ ih =>
        exact .cons (hp.other hK h.registry hf (hl _ List.mem_cons_self) ht hq)
          (ih fun q hq => hl q (List.mem_cons_of_mem _ hq))
    refine ⟨?_, List.rel_append (hother ?_ h₁) (.cons ?_ (hother ?_ h₂)), ?_⟩
    · exact (Task.registry_advance policy s t).trans h.registry
    · exact fun q hq => hsymm.symm _ _ (hapart₁ q hq p List.mem_cons_self)
    · exact hp.advance hK h.registry hf ht
    · exact fun q hq => (List.pairwise_cons.mp hapart₂).1 q hq
    · intro file hfile
      rw [← h.others file hfile]
      rcases hp.told h.registry hf ht with hsame | ⟨told, i, rest, -, -, hmore⟩
      · exact hsame file
      · rw [hmore, if_neg (hfile p (by simp)), List.append_nil]
  | @cancel front back f s _ =>
    obtain ⟨l₁, p, l₂, rfl, h₁, hp, h₂⟩ := forall₂_append_cons h.tasks
    refine ⟨h.registry, List.rel_append h₁ (.cons hp ?_), h.others⟩
    rw [List.forall₂_map_right_iff]
    refine h₂.imp fun q u hu => ?_
    cases u with
    | waiting _ => exact hp.1
    | _ => exact hu

end Pool

end Crosslink
