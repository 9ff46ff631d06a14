import Mathlib.Data.List.Pairwise
import Crosslink.Build.Basic
import Crosslink.Proofs.Path.Order
import Crosslink.Proofs.Registry.Current
import Crosslink.Proofs.Session.Perform

/-!
# What registration comes to

The first phase in closed form: for each page, and for all pages of a build, the outcome, the
issues in the order in which they are reported and the registry that is left, as functions of
the registry before. The phase itself is shown to give exactly these.
-/

namespace Crosslink

/-- Pages are registered in the order of the text of their paths. -/
theorem Build.pairwise_registrationOrder (pages : List Page) :
    (registrationOrder pages).Pairwise
      fun p q => p.sourceFile.textLe q.sourceFile = true := by
  have horder : registrationOrder pages =
    pages.mergeSort fun p q => p.sourceFile.textLe q.sourceFile := rfl
  rw [horder]
  exact Path.pairwise_mergeSort_text (fun p : Page => p.sourceFile) pages

namespace Location

variable {root location : Path} {e : Error}

/-- A location outside the root is an error that names the location. -/
theorem of_relative_error (h : relative root location = .error e) :
    e = .outsideRoot location root := by
  rw [relative] at h
  repeat' split at h
  all_goals cases h
  rfl

theorem of_canonical_error (h : canonical root location = .error e) :
    e = .outsideRoot location root := by
  rw [canonical] at h
  cases hbelow : relative root location with
  | error e' =>
    rw [hbelow] at h
    cases h
    exact of_relative_error hbelow
  | ok below =>
    rw [hbelow] at h
    cases h

end Location

/-- Is the problem one of registration, and not of a link? -/
def IssueKind.isRegistration : IssueKind → Bool
  | .duplicateIdentifier | .missingIdentifier => true
  | _ => false

/-- Those of the issues that registration reports. -/
def Issue.registrations (is : List Issue) : List Issue := is.filter fun i => i.kind.isRegistration

/-- Those of the issues that links cause. -/
def Issue.unresolved (is : List Issue) : List Issue := is.filter fun i => !i.kind.isRegistration

namespace Issue

variable {is js : List Issue}

@[simp] theorem registrations_append :
    registrations (is ++ js) = registrations is ++ registrations js := List.filter_append _ _

@[simp] theorem unresolved_append : unresolved (is ++ js) = unresolved is ++ unresolved js :=
  List.filter_append _ _

/-- Issues of registration are none of links. -/
theorem of_isRegistration (h : ∀ i ∈ is, i.kind.isRegistration = true) :
    registrations is = is ∧ unresolved is = [] :=
  ⟨List.filter_eq_self.mpr h, List.filter_eq_nil_iff.mpr fun i hi => by simp [h i hi]⟩

/-- Issues of links are none of registration. -/
theorem of_not_isRegistration (h : ∀ i ∈ is, i.kind.isRegistration = false) :
    registrations is = [] ∧ unresolved is = is :=
  ⟨List.filter_eq_nil_iff.mpr fun i hi => by simp [h i hi],
    List.filter_eq_self.mpr fun i hi => by simp [h i hi]⟩

/-- Every issue is one of registration or one of a link. -/
theorem eq_nil (h : registrations is = []) (h' : unresolved is = []) : is = [] := by
  rw [List.eq_nil_iff_forall_not_mem]
  intro i hi
  have hr := List.filter_eq_nil_iff.mp h i hi
  have hu := List.filter_eq_nil_iff.mp h' i hi
  simp_all

end Issue

/-- How registration ends, the issues it reports, in order, and the registry it leaves. -/
structure Registered where
  outcome : Except Failure Unit
  issues : List Issue
  registry : Registry

namespace Registered

/-- The issue of a page without an identifier, if the policy makes it one. -/
def missing (policy : Policy) (location : Path) : List Issue :=
  match policy.missingIdentifier with
  | .error => [Issue.ofPage .missingIdentifier "File declares no globalReference" location]
  | _ => []

/-- The issue of an identifier that the present generation has at another path. -/
def duplicates (r : Registry) (identifier path : String) (location : Path) : List Issue :=
  match r.current identifier with
  | none => []
  | some x =>
    if x.canonicalPath == path then [] else [Session.duplicateIssue identifier location x]

theorem duplicates_of_none {r : Registry} {identifier : String} (h : r.get? identifier = none)
    (path : String) (location : Path) : duplicates r identifier path location = [] := by
  simp [duplicates, Registry.current, h]

/-- A record counts if it is of the present generation and at another path. -/
theorem duplicates_of_some {r : Registry} {identifier : String} {x : Record}
    (h : r.get? identifier = some x) (path : String) (location : Path) :
    duplicates r identifier path location =
      if x.canonicalPath == path then []
      else if x.generation == r.generation then [Session.duplicateIssue identifier location x]
      else [] := by
  rw [duplicates, Registry.current, h]
  by_cases hg : (x.generation == r.generation) = true
  · rw [Option.filter_some, if_pos hg, if_pos hg]
    rfl
  · rw [Option.filter_some, if_neg hg, if_neg hg, ite_self]
    rfl

/-- A page without an identifier. -/
def undeclared (policy : Policy) (location : Path) (path : String) (r : Registry) : Registered :=
  ⟨Session.verdict policy.strict (missing policy location), missing policy location,
    r.without path none⟩

/-- A page with an identifier; a second declaration leaves the registry alone when it ends the
build. -/
def declared (policy : Policy) (identifier path : String) (location : Path)
    (title : Option String) (r : Registry) : Registered :=
  let is := duplicates r identifier path location
  match Session.verdict policy.strict is with
  | .error f => ⟨.error f, is, r⟩
  | .ok () =>
    ⟨.ok (), is, (r.without path (some identifier)).written ⟨identifier, path, location, title, 0⟩⟩

/-- One page, by its metadata and its location. -/
def ofPage (policy : Policy) (metadata : Fields) (location : Path) (r : Registry) : Registered :=
  match Location.canonical policy.contentRoot location with
  | .error e => ⟨.error (.error e), [], r⟩
  | .ok path =>
    match declaredIdentifier metadata with
    | .error f => ⟨.error (.fault f), [], r⟩
    | .ok none => undeclared policy location path r
    | .ok (some identifier) =>
      match declaredTitle metadata with
      | .error f => ⟨.error (.fault f), [], r⟩
      | .ok title => declared policy identifier path location title r

/-- Pages one after the other, up to the first that fails. -/
def ofPages (policy : Policy) : List Page → Registry → Registered
  | [], r => ⟨.ok (), [], r⟩
  | page :: rest, r =>
    let first := ofPage policy page.metadata page.sourceFile r
    match first.outcome with
    | .error f => ⟨.error f, first.issues, first.registry⟩
    | .ok () =>
      let later := ofPages policy rest first.registry
      ⟨later.outcome, first.issues ++ later.issues, later.registry⟩

/-- All pages of a build as a new generation. -/
def all (policy : Policy) (pages : List Page) (r : Registry) : Registered :=
  let done := ofPages policy (Build.registrationOrder pages) r.begin
  match done.outcome with
  | .error f => ⟨.error f, done.issues, done.registry⟩
  | .ok () => ⟨.ok (), done.issues, done.registry.pruned.freeze⟩

/-- Registration neither freezes nor opens a registry. -/
@[simp] theorem frozen_ofPage (policy : Policy) (metadata : Fields) (location : Path)
    (r : Registry) : (ofPage policy metadata location r).registry.frozen = r.frozen := by
  simp only [ofPage, declared]
  repeat' split
  all_goals rfl

/-- Registration is all done in one generation. -/
@[simp] theorem generation_ofPage (policy : Policy) (metadata : Fields) (location : Path)
    (r : Registry) :
    (ofPage policy metadata location r).registry.generation = r.generation := by
  simp only [ofPage, declared]
  repeat' split
  all_goals rfl

/-- Registration keeps a registry sound. -/
theorem sound_ofPage (policy : Policy) (metadata : Fields) (location : Path) {r : Registry}
    (h : r.Sound) : (ofPage policy metadata location r).registry.Sound := by
  simp only [ofPage, declared]
  repeat' split
  all_goals first | exact h | exact h.without _ _ | exact (h.without _ _).written _

@[simp] theorem frozen_ofPages (policy : Policy) (pages : List Page) (r : Registry) :
    (ofPages policy pages r).registry.frozen = r.frozen := by
  induction pages generalizing r with
  | nil => rfl
  | cons page rest ih =>
    rw [ofPages]
    split
    · exact frozen_ofPage _ _ _ _
    · rw [ih, frozen_ofPage]

@[simp] theorem generation_ofPages (policy : Policy) (pages : List Page) (r : Registry) :
    (ofPages policy pages r).registry.generation = r.generation := by
  induction pages generalizing r with
  | nil => rfl
  | cons page rest ih =>
    rw [ofPages]
    split
    · exact generation_ofPage _ _ _ _
    · rw [ih, generation_ofPage]

theorem sound_ofPages (policy : Policy) (pages : List Page) {r : Registry} (h : r.Sound) :
    (ofPages policy pages r).registry.Sound := by
  induction pages generalizing r with
  | nil => exact h
  | cons page rest ih =>
    rw [ofPages]
    split
    · exact sound_ofPage _ _ _ h
    · exact ih (sound_ofPage _ _ _ h)

/-- A whole first phase keeps a registry sound, however it ends. -/
theorem sound_all (policy : Policy) (pages : List Page) {r : Registry} (h : r.Sound) :
    (all policy pages r).registry.Sound := by
  have hdone := sound_ofPages policy (Build.registrationOrder pages) h.begin
  rw [all]
  split
  · exact hdone
  · exact hdone.pruned.freeze

/-- An issue of a page is one of registration. -/
theorem of_mem_ofPage {policy : Policy} {metadata : Fields} {location : Path} {r : Registry}
    {i : Issue} (h : i ∈ (ofPage policy metadata location r).issues) :
    i.sourceFile = location ∧ i.kind.isRegistration = true := by
  simp only [ofPage, undeclared, declared, missing, duplicates] at h
  repeat' split at h
  all_goals first
    | exact absurd h List.not_mem_nil
    | (rw [List.mem_singleton.mp h]; exact ⟨rfl, rfl⟩)

theorem of_mem_ofPages {policy : Policy} {pages : List Page} {r : Registry} {i : Issue}
    (h : i ∈ (ofPages policy pages r).issues) :
    (∃ p ∈ pages, i.sourceFile = p.sourceFile) ∧ i.kind.isRegistration = true := by
  induction pages generalizing r with
  | nil => exact absurd h List.not_mem_nil
  | cons page rest ih =>
    have hfirst : ∀ {i : Issue}, i ∈ (ofPage policy page.metadata page.sourceFile r).issues →
        (∃ p ∈ page :: rest, i.sourceFile = p.sourceFile) ∧ i.kind.isRegistration = true :=
      fun hi => ⟨⟨page, List.mem_cons_self, (of_mem_ofPage hi).1⟩, (of_mem_ofPage hi).2⟩
    rw [ofPages] at h
    split at h
    · exact hfirst h
    · rcases List.mem_append.mp h with h | h
      · exact hfirst h
      · obtain ⟨⟨p, hp, hfile⟩, hkind⟩ := ih h
        exact ⟨⟨p, List.mem_cons_of_mem _ hp, hfile⟩, hkind⟩

/-- The first phase reports issues of registration, of the pages that it registers. -/
theorem of_mem_all {policy : Policy} {pages : List Page} {r : Registry} {i : Issue}
    (h : i ∈ (all policy pages r).issues) :
    (∃ p ∈ pages, i.sourceFile = p.sourceFile) ∧ i.kind.isRegistration = true := by
  have hi : i ∈ (ofPages policy (Build.registrationOrder pages) r.begin).issues := by
    rw [all] at h
    split at h <;> exact h
  obtain ⟨⟨p, hp, hfile⟩, hkind⟩ := of_mem_ofPages hi
  exact ⟨⟨p, (List.mergeSort_perm _ _).mem_iff.mp hp, hfile⟩, hkind⟩

/-- Issues are reported in the order of their pages. -/
theorem pairwise_ofPages (policy : Policy) {pages : List Page}
    (h : pages.Pairwise fun p q => p.sourceFile.textLe q.sourceFile = true) (r : Registry) :
    (ofPages policy pages r).issues.Pairwise
      fun i j => i.sourceFile.textLe j.sourceFile = true := by
  induction pages generalizing r with
  | nil => exact .nil
  | cons page rest ih =>
    obtain ⟨hfirst, hrest⟩ := List.pairwise_cons.mp h
    have hpage : (ofPage policy page.metadata page.sourceFile r).issues.Pairwise
        fun i j => i.sourceFile.textLe j.sourceFile = true :=
      List.pairwise_of_forall_mem_list fun i hi j hj => by
        rw [(of_mem_ofPage hi).1, (of_mem_ofPage hj).1]
        exact Path.textLe_iff.mpr (String.le_refl _)
    rw [ofPages]
    split
    · exact hpage
    · refine List.pairwise_append.mpr ⟨hpage, ih hrest _, fun i hi j hj => ?_⟩
      obtain ⟨⟨p, hp, hfile⟩, -⟩ := of_mem_ofPages hj
      rw [(of_mem_ofPage hi).1, hfile]
      exact hfirst p hp

/-- The first phase reports issues in the order of the text of their paths. -/
theorem pairwise_all (policy : Policy) (pages : List Page) (r : Registry) :
    (all policy pages r).issues.Pairwise
      fun i j => i.sourceFile.textLe j.sourceFile = true := by
  have hpages := pairwise_ofPages policy (Build.pairwise_registrationOrder pages) r.begin
  rw [all]
  split <;> exact hpages

/-- A permissive registration fails for the page alone, whatever is registered already. -/
theorem outcome_ofPage_of_permissive {policy : Policy} (hs : policy.strict = false)
    (metadata : Fields) (location : Path) (r r' : Registry) :
    (ofPage policy metadata location r).outcome = (ofPage policy metadata location r').outcome := by
  simp only [ofPage, undeclared, declared, hs, Session.verdict_permissive]
  repeat' split
  all_goals rfl

/-- Permissive registration goes through exactly when every page can be registered by itself. -/
theorem outcome_all_of_permissive {policy : Policy} (hs : policy.strict = false)
    (pages : List Page) (r : Registry) : (all policy pages r).outcome = .ok () ↔
      ∀ p ∈ pages, (ofPage policy p.metadata p.sourceFile r).outcome = .ok () := by
  have hpages : ∀ (pages : List Page) (r' : Registry), (ofPages policy pages r').outcome = .ok () ↔
      ∀ p ∈ pages, (ofPage policy p.metadata p.sourceFile r).outcome = .ok () := by
    intro pages
    induction pages with
    | nil => simp [ofPages]
    | cons page rest ih =>
      intro r'
      rw [ofPages, List.forall_mem_cons, outcome_ofPage_of_permissive hs _ _ r r']
      cases (ofPage policy page.metadata page.sourceFile r').outcome with
      | error f => simp
      | ok _ => simp [ih]
  have horder : (∀ p ∈ Build.registrationOrder pages,
      (ofPage policy p.metadata p.sourceFile r).outcome = .ok ()) ↔
      ∀ p ∈ pages, (ofPage policy p.metadata p.sourceFile r).outcome = .ok () :=
    forall_congr' fun p => by rw [Build.registrationOrder, (List.mergeSort_perm _ _).mem_iff]
  rw [← horder, ← hpages _ r.begin, all]
  cases (ofPages policy (Build.registrationOrder pages) r.begin).outcome <;> simp

/-- A first phase that is completed leaves the registry frozen. -/
theorem frozen_all {policy : Policy} {pages : List Page} {r : Registry}
    (h : (all policy pages r).outcome = .ok ()) : (all policy pages r).registry.frozen = true := by
  rw [all] at h ⊢
  split at h
  · cases h
  · rfl

end Registered

namespace Session

open Registered

theorem gives_beginGeneration (s : Session) :
    s.Gives beginGeneration (.ok s.registry.begin.generation) s.registry.begin s.issues :=
  ⟨s.log, rfl⟩

theorem gives_freeze (s : Session) : s.Gives Session.freeze (.ok ()) s.registry.freeze s.issues :=
  ⟨s.log, rfl⟩

theorem gives_removePath {s : Session} (h : s.registry.frozen = false) (path : String)
    (keep : Option String) : ∃ names,
      s.Gives (removePath path keep) (.ok names) (s.registry.without path keep) s.issues := by
  obtain ⟨names, hr⟩ := Registry.removePath_of_open h path keep
  refine ⟨names, s.log, ?_⟩
  rw [removePath, perform_changeRegistry, hr]

theorem gives_put {s : Session} (h : s.registry.frozen = false) (record : Record) :
    s.Gives (put record) (.ok (s.registry.get? record.identifier)) (s.registry.written record)
      s.issues := by
  refine ⟨s.log, ?_⟩
  rw [put, perform_changeRegistry, Registry.put_of_open h]

/-- Pruning leaves the records of the present generation. -/
theorem gives_prune {s : Session} (h : s.registry.frozen = false) : ∃ names,
    s.Gives prune (.ok names) s.registry.pruned s.issues := by
  obtain ⟨names, hr⟩ := Registry.prune_of_open h
  refine ⟨names, ?_⟩
  have hchange : s.Gives (changeRegistry Registry.prune) (.ok names) s.registry.pruned s.issues :=
    ⟨s.log, by rw [perform_changeRegistry, hr]⟩
  refine hchange.bind fun log => ?_
  by_cases hn : names.isEmpty = true
  · simpa [hn] using gives_pure ⟨s.registry.pruned, s.issues, log⟩ names
  · simp only [hn, Bool.not_false, if_true]
    exact (gives_say _ _ _).bind fun log => gives_pure ⟨s.registry.pruned, s.issues, log⟩ names

/-- A page without an identifier is registered as stated in closed form. -/
theorem gives_registerUndeclared (policy : Policy) {s : Session}
    (h : s.registry.frozen = false) (location : Path) (path : String) :
    s.Gives (registerUndeclared policy location path)
      (undeclared policy location path s.registry).outcome
      (undeclared policy location path s.registry).registry
      (s.issues.addAll (undeclared policy location path s.registry).issues) := by
  obtain ⟨names, hr⟩ := gives_removePath h path none
  refine hr.bind fun log => ?_
  refine (gives_forM_say _ _ _ _).bind fun log => ?_
  rw [undeclared]
  cases hm : policy.missingIdentifier with
  | ignore =>
    simp only [missing, hm]
    exact gives_pure _ ()
  | warn =>
    simp only [missing, hm]
    exact gives_say _ _ _
  | error =>
    simp only [missing, hm]
    exact gives_report _ _ _

/-- A declaration is compared with the record of the present generation only. -/
theorem gives_announceMove (policy : Policy) (s : Session) (identifier path : String)
    (location : Path) :
    s.Gives (announceMove policy identifier path location)
      (verdict policy.strict (duplicates s.registry identifier path location)) s.registry
      (s.issues.addAll (duplicates s.registry identifier path location)) := by
  refine Gives.get_bind ?_
  cases hx : s.registry.get? identifier with
  | none =>
    simp only [hx, duplicates_of_none hx]
    exact gives_pure s ()
  | some x =>
    simp only [hx, duplicates_of_some hx]
    by_cases hp : (x.canonicalPath == path) = true
    · simp only [hp, if_true]
      exact gives_pure s ()
    · by_cases hg : (x.generation == s.registry.generation) = true
      · simp only [hp, hg, if_true]
        exact gives_report s policy.strict (duplicateIssue identifier location x)
      · simp only [hp, hg]
        exact gives_say s .info _

/-- A page with an identifier is registered as stated in closed form. -/
theorem gives_registerDeclared (policy : Policy) {s : Session} (h : s.registry.frozen = false)
    (identifier path : String) (location : Path) (title : Option String) :
    s.Gives (registerDeclared policy identifier path location title)
      (declared policy identifier path location title s.registry).outcome
      (declared policy identifier path location title s.registry).registry
      (s.issues.addAll (declared policy identifier path location title s.registry).issues) := by
  have hmove := gives_announceMove policy s identifier path location
  rw [declared]
  cases hv : verdict policy.strict (duplicates s.registry identifier path location) with
  | error f => exact (hv ▸ hmove).bind_error
  | ok _ =>
    refine (hv ▸ hmove).bind fun log => ?_
    obtain ⟨names, hr⟩ := gives_removePath (s := ⟨s.registry, _, log⟩) h path (some identifier)
    refine hr.bind fun log => ?_
    have hput := gives_put (s := ⟨s.registry.without path (some identifier),
      s.issues.addAll (duplicates s.registry identifier path location), log⟩) h
      ⟨identifier, path, location, title, 0⟩
    exact hput.bind fun log => gives_pure ⟨_, _, log⟩ ()

/-- The registration of a page on an open registry is the closed form. -/
theorem gives_register (policy : Policy) {s : Session} (h : s.registry.frozen = false)
    (metadata : Fields) (location : Path) :
    s.Gives (register policy metadata location)
      (ofPage policy metadata location s.registry).outcome
      (ofPage policy metadata location s.registry).registry
      (s.issues.addAll (ofPage policy metadata location s.registry).issues) := by
  rw [ofPage, Gives, register]
  simp only [perform_bind, perform_require, perform_obtain]
  cases Location.canonical policy.contentRoot location with
  | error e => exact ⟨s.log, rfl⟩
  | ok path =>
    cases declaredIdentifier metadata with
    | error f => exact ⟨s.log, rfl⟩
    | ok identifier? =>
      cases identifier? with
      | none => exact gives_registerUndeclared policy h location path
      | some identifier =>
        simp only [Except.mapError, perform_bind, perform_obtain]
        cases declaredTitle metadata with
        | error f => exact ⟨s.log, rfl⟩
        | ok title => exact gives_registerDeclared policy h identifier path location title

/-- Registering pages in a given order is the closed form, whose registry stays open. -/
theorem gives_registerEach (policy : Policy) (pages : List Page) {s : Session}
    (h : s.registry.frozen = false) :
    s.Gives (pages.forM fun page => register policy page.metadata page.sourceFile)
      (ofPages policy pages s.registry).outcome (ofPages policy pages s.registry).registry
      (s.issues.addAll (ofPages policy pages s.registry).issues) := by
  induction pages generalizing s with
  | nil => exact gives_pure s ()
  | cons page rest ih =>
    change s.Gives (register policy page.metadata page.sourceFile >>= fun _ => rest.forM _) _ _ _
    have hfirst := gives_register policy h page.metadata page.sourceFile
    rw [ofPages]
    cases ho : (ofPage policy page.metadata page.sourceFile s.registry).outcome with
    | error f =>
      rw [ho] at hfirst
      simpa only [ho] using hfirst.bind_error
    | ok _ =>
      rw [ho] at hfirst
      simp only [IssueLog.addAll_append]
      refine hfirst.bind fun log => ih (s := ⟨_, _, log⟩) ?_
      rw [frozen_ofPage, h]

/-- The first phase is its closed form. -/
theorem gives_registerAll (policy : Policy) (pages : List Page) (s : Session) :
    s.Gives (Build.registerAll policy pages) (all policy pages s.registry).outcome
      (all policy pages s.registry).registry
      (s.issues.addAll (all policy pages s.registry).issues) := by
  have heach (log : List Message) := gives_registerEach policy (Build.registrationOrder pages)
    (s := ⟨s.registry.begin, s.issues, log⟩) rfl
  refine (gives_beginGeneration s).bind fun log => ?_
  rw [all]
  cases ho : (ofPages policy (Build.registrationOrder pages) s.registry.begin).outcome with
  | error f => exact (ho ▸ heach log).bind_error
  | ok _ =>
    refine (ho ▸ heach log).bind fun log => ?_
    have hopen : (ofPages policy (Build.registrationOrder pages) s.registry.begin).registry.frozen
        = false := frozen_ofPages _ _ _
    obtain ⟨names, hprune⟩ := gives_prune (s := ⟨_, _, log⟩) hopen
    refine hprune.bind fun log => ?_
    exact (gives_freeze _).bind fun log => Gives.get_bind (gives_say _ _ _)

end Session

end Crosslink
