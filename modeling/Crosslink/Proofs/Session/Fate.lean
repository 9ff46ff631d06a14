import Crosslink.Proofs.Session.Registered

/-!
# What becomes of a link

Once the registry is frozen, what becomes of a link depends on the policy, the registry and
the page alone. A page as a whole has its resolved form, the issues of its links in their
order and the number of rewritten links; the second phase is made of these.
-/

namespace Crosslink

/-- The issue that an outcome causes. -/
def Outcome.issue? : Outcome → Option Issue
  | .refused _ i => some i
  | _ => none

namespace Resolution

/-- What becomes of a link of a page when the registry is frozen. -/
def fate (policy : Policy) (r : Registry) (file : Path) (l : Link) : Outcome :=
  match Target.ofString l.url with
  | .plain _ => .kept
  | .repository path => ofRepository policy path file l
  | .reference identifier anchor => ofRecord (r.get? identifier) identifier anchor file l

theorem ofTarget_of_frozen {r : Registry} (h : r.frozen = true) (policy : Policy) (file : Path)
    (l : Link) :
    ofTarget policy r (Target.ofString l.url) file l = .ok (fate policy r file l) := by
  rw [fate]
  cases Target.ofString l.url with
  | plain _ => rfl
  | repository _ => rfl
  | reference identifier anchor => simp [ofTarget, Registry.lookup, h, Except.map]

/-- An issue of a link is an issue of its page and none of registration. -/
theorem of_issue?_fate {policy : Policy} {r : Registry} {file : Path} {l : Link} {i : Issue}
    (h : (fate policy r file l).issue? = some i) :
    i.sourceFile = file ∧ i.kind.isRegistration = false := by
  simp only [fate, ofRepository, ofRecord, refuse] at h
  repeat' split at h
  all_goals cases h
  all_goals exact ⟨rfl, rfl⟩

/-- The date of a record does not matter to a link. -/
theorem ofRecord_undated (x : Option Record) (identifier : String) (anchor : Option String)
    (file : Path) (l : Link) :
    ofRecord (x.map Record.undated) identifier anchor file l =
      ofRecord x identifier anchor file l := by cases x <;> rfl

/-- Registries that differ in the dates of their records alone decide alike. -/
theorem fate_congr {a b : Registry}
    (h : ∀ id, (a.get? id).map Record.undated = (b.get? id).map Record.undated)
    (policy : Policy) (file : Path) (l : Link) : fate policy a file l = fate policy b file l := by
  rw [fate, fate]
  cases Target.ofString l.url with
  | plain _ => rfl
  | repository _ => rfl
  | reference identifier anchor =>
    change ofRecord (a.get? identifier) identifier anchor file l =
      ofRecord (b.get? identifier) identifier anchor file l
    rw [← ofRecord_undated, h identifier, ofRecord_undated]

end Resolution

namespace Page

/-- Some links of the page as they become. -/
def linksAfter (policy : Policy) (r : Registry) (p : Page) (links : List Link) : List Link :=
  links.map fun l => (Resolution.fate policy r p.sourceFile l).link l

/-- The number of some links of the page that are rewritten. -/
def rewrittenAmong (policy : Policy) (r : Registry) (p : Page) (links : List Link) : Nat :=
  links.countP fun l => (Resolution.fate policy r p.sourceFile l).isRewritten

/-- The issues that some links of the page cause, in the order of the links. -/
def issuesOf (policy : Policy) (r : Registry) (p : Page) (links : List Link) : List Issue :=
  links.filterMap fun l => (Resolution.fate policy r p.sourceFile l).issue?

/-- The page with its links as they become. -/
def resolved (policy : Policy) (r : Registry) (p : Page) : Page :=
  { p with links := p.linksAfter policy r p.links }

/-- The number of links that are rewritten. -/
def rewritten (policy : Policy) (r : Registry) (p : Page) : Nat :=
  p.rewrittenAmong policy r p.links

/-- The issues that the links of the page cause. -/
def issues (policy : Policy) (r : Registry) (p : Page) : List Issue :=
  p.issuesOf policy r p.links

/-- What a page becomes, with its report, when it had some issues before. -/
def outcome (policy : Policy) (r : Registry) (before : List Issue) (p : Page) :
    Page × PageReport :=
  (p.resolved policy r, ⟨p.sourceFile, before ++ p.issues policy r, p.rewritten policy r⟩)

theorem of_mem_issuesOf {policy : Policy} {r : Registry} {p : Page} {links : List Link}
    {i : Issue} (h : i ∈ p.issuesOf policy r links) :
    i.sourceFile = p.sourceFile ∧ i.kind.isRegistration = false := by
  obtain ⟨l, -, hl⟩ := List.mem_filterMap.mp h
  exact Resolution.of_issue?_fate hl

/-- The issues of a page are those of its links. -/
theorem unresolved_issues (policy : Policy) (r : Registry) (p : Page) :
    Issue.registrations (p.issues policy r) = [] ∧
      Issue.unresolved (p.issues policy r) = p.issues policy r :=
  Issue.of_not_isRegistration fun _ hi => (of_mem_issuesOf hi).2

theorem issuesOf_append (policy : Policy) (r : Registry) (p : Page) (ls ms : List Link) :
    p.issuesOf policy r (ls ++ ms) = p.issuesOf policy r ls ++ p.issuesOf policy r ms :=
  List.filterMap_append

theorem issuesOf_cons (policy : Policy) (r : Registry) (p : Page) (l : Link) (ls : List Link) :
    p.issuesOf policy r (l :: ls) =
      (Resolution.fate policy r p.sourceFile l).issue?.toList ++ p.issuesOf policy r ls := by
  cases h : (Resolution.fate policy r p.sourceFile l).issue? <;> simp [issuesOf, h]

/-- The links before one, that link, and the links after it share the issues of the page. -/
theorem issues_split (policy : Policy) (r : Registry) {p : Page} {settled rest : List Link}
    {l : Link} (h : p.links = settled ++ l :: rest) :
    p.issues policy r = p.issuesOf policy r settled ++
      ((Resolution.fate policy r p.sourceFile l).issue?.toList ++ p.issuesOf policy r rest) := by
  rw [issues, h, issuesOf_append, issuesOf_cons]

end Page

namespace Session

/-- On a frozen registry a link meets its fate, and its issue may end the build. -/
theorem gives_resolveTarget (policy : Policy) {s : Session} (h : s.registry.frozen = true)
    (file : Path) (l : Link) :
    s.Gives (resolveTarget policy (Target.ofString l.url) file l)
      ((verdict policy.strict (Resolution.fate policy s.registry file l).issue?.toList).map
        fun _ => Resolution.fate policy s.registry file l)
      s.registry
      (s.issues.addAll (Resolution.fate policy s.registry file l).issue?.toList) := by
  refine Gives.get_bind ?_
  rw [Resolution.ofTarget_of_frozen h]
  cases hf : Resolution.fate policy s.registry file l with
  | kept => exact gives_pure s _
  | rewritten _ => exact gives_pure s _
  | refused _ i =>
    have hreport := gives_report s policy.strict i
    change s.Gives (report policy.strict i >>= fun _ => pure _) _ _ _
    simp only [Outcome.issue?, Option.toList_some]
    cases hv : verdict policy.strict [i] with
    | error f => exact (hv ▸ hreport).bind_error
    | ok _ => exact (hv ▸ hreport).bind fun log => gives_pure ⟨_, _, log⟩ _

/-- Resolving a link leaves the registry alone, frozen or not. -/
theorem registry_resolveTarget (policy : Policy) (s : Session) (target : Target)
    (file : Path) (l : Link) :
    (s.perform (resolveTarget policy target file l)).2.registry = s.registry := by
  rw [resolveTarget]
  simp only [perform_bind, perform_get, perform_require]
  rcases Resolution.ofTarget policy s.registry target file l with e | outcome
  · rfl
  · cases outcome <;> cases policy.strict <;> rfl

end Session

end Crosslink
