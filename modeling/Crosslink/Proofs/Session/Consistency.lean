import Crosslink.Proofs.Session.Agreement
import Crosslink.Session.Step

/-!
# Consistency of a registry over whole histories

What holds of the records after any history of registration: each is found under its
identifier, has a path of its own, which is that of its file, and is of no later generation
than the present one. Writing a record alone would not keep paths apart; registration does so
because it first removes the other records of the path. Operations may fail on the way, each
under a policy of its own.
-/

namespace Crosslink

namespace Registry

variable {root : Path} {r : Registry}

/-- Each record has an identifier and a canonical path of its own, and its path is that of its
file. -/
structure Consistent (root : Path) (r : Registry) : Prop extends r.Sound where
  separate : (r.records.map (·.canonicalPath)).Nodup
  located : ∀ x ∈ r.records, Location.canonical root x.sourceFile = .ok x.canonicalPath

/-- A record whose path no other identifier has can be written beside records with paths of
their own. -/
theorem nodup_paths_putRecord {record : Record} {rs : List Record}
    (hids : (rs.map (·.identifier)).Nodup) (hpaths : (rs.map (·.canonicalPath)).Nodup)
    (h : ∀ x ∈ rs, x.canonicalPath = record.canonicalPath → x.identifier = record.identifier) :
    ((putRecord record rs).map (·.canonicalPath)).Nodup := by
  induction rs with
  | nil => simp [putRecord]
  | cons x rest ih =>
    obtain ⟨hid, hids⟩ := List.nodup_cons.mp hids
    obtain ⟨hpath, hpaths⟩ := List.nodup_cons.mp hpaths
    by_cases hx : x.identifier = record.identifier
    · -- the record takes the place of `x`, so the others do not have its identifier
      rw [putRecord, if_pos (by simpa using hx)]
      refine List.nodup_cons.mpr ⟨fun hmem => ?_, hpaths⟩
      obtain ⟨y, hy, hyp⟩ := List.mem_map.mp hmem
      have hyi := h y (List.mem_cons_of_mem _ hy) hyp
      exact hid (List.mem_map.mpr ⟨y, hy, hyi.trans hx.symm⟩)
    · rw [putRecord, if_neg (by simpa using hx)]
      have hrest := ih hids hpaths fun y hy => h y (List.mem_cons_of_mem _ hy)
      refine List.nodup_cons.mpr ⟨fun hmem => ?_, hrest⟩
      obtain ⟨y, hy, hyp⟩ := List.mem_map.mp hmem
      rcases mem_putRecord hy with rfl | hy
      · exact hx (h x List.mem_cons_self hyp.symm)
      · exact hpath (List.mem_map.mpr ⟨y, hy, hyp⟩)

namespace Consistent

theorem empty : Consistent root Registry.empty :=
  ⟨Sound.empty, List.nodup_nil, by simp [Registry.empty]⟩

theorem begin (h : r.Consistent root) : r.begin.Consistent root :=
  ⟨h.toSound.begin, h.separate, h.located⟩

theorem freeze (h : r.Consistent root) : r.freeze.Consistent root :=
  ⟨h.toSound.freeze, h.separate, h.located⟩

/-- Removing records keeps a registry consistent. -/
theorem filter (h : r.Consistent root) (test : Record → Bool) :
    Consistent root { r with records := r.records.filter test } :=
  ⟨h.toSound.filter test, h.separate.sublist (List.filter_sublist.map _),
    fun x hx => h.located x (List.mem_filter.mp hx).1⟩

theorem without (h : r.Consistent root) (path : String) (keep : Option String) :
    (r.without path keep).Consistent root := h.filter _

theorem pruned (h : r.Consistent root) : r.pruned.Consistent root := h.filter _

/-- A record may be written once the other records of its path are removed. -/
theorem written (h : r.Consistent root) (record : Record)
    (hpath : Location.canonical root record.sourceFile = .ok record.canonicalPath) :
    ((r.without record.canonicalPath (some record.identifier)).written record).Consistent
      root := by
  have hr := h.without record.canonicalPath (some record.identifier)
  refine ⟨hr.toSound.written record, ?_, ?_⟩
  · refine nodup_paths_putRecord hr.distinct hr.separate fun x hx hxp => ?_
    have htest := (List.mem_filter.mp hx).2
    simpa [hxp] using htest
  · intro x hx
    rcases mem_putRecord hx with rfl | hx
    · exact hpath
    · exact hr.located x hx

end Consistent

end Registry

/-- A page keeps a registry consistent, whether or not it can be registered. -/
theorem Registered.consistent_ofPage (policy : Policy) (metadata : Fields) (location : Path)
    {r : Registry} (h : r.Consistent policy.contentRoot) :
    (ofPage policy metadata location r).registry.Consistent policy.contentRoot := by
  rw [ofPage]
  cases hpath : Location.canonical policy.contentRoot location with
  | error e => exact h
  | ok path =>
    cases declaredIdentifier metadata with
    | error f => exact h
    | ok identifier? =>
      cases identifier? with
      | none => exact h.without path none
      | some identifier =>
        cases declaredTitle metadata with
        | error f => exact h
        | ok title =>
          simp only [declared]
          cases Session.verdict policy.strict (duplicates r identifier path location) with
          | error f => exact h
          | ok _ => exact h.written ⟨identifier, path, location, title, 0⟩ hpath

namespace Session

/-- An action that goes on with its value leaves the same as without. -/
theorem perform_map {α β : Type} (s : Session) (f : α → β) (x : Action α) :
    s.perform (f <$> x) = ((s.perform x).1.map f, (s.perform x).2) := by
  rw [map_eq_pure_bind, perform_bind]
  rcases s.perform x with ⟨a | a, t⟩ <;> rfl

/-- A frozen registry refuses the removal of a path. -/
theorem gives_removePath_of_frozen {s : Session} (h : s.registry.frozen = true) (path : String)
    (keep : Option String) :
    s.Gives (removePath path keep) (.error (.error .registryFrozen)) s.registry s.issues := by
  refine ⟨s.log, ?_⟩
  rw [removePath, perform_changeRegistry, Registry.removePath, Registry.removeWhere,
    Registry.change_of_frozen h]

/-- No page can be registered in a frozen registry, which stays as it is. -/
theorem gives_register_of_frozen (policy : Policy) {s : Session} (h : s.registry.frozen = true)
    (metadata : Fields) (location : Path) : ∃ f issues,
      s.Gives (register policy metadata location) (.error f) s.registry issues := by
  simp only [Gives, register, perform_bind, perform_require, perform_obtain]
  cases Location.canonical policy.contentRoot location with
  | error e => exact ⟨_, _, s.log, rfl⟩
  | ok path =>
    cases declaredIdentifier metadata with
    | error f => exact ⟨_, _, s.log, rfl⟩
    | ok identifier? =>
      cases identifier? with
      | none => exact ⟨_, _, (gives_removePath_of_frozen h path none).bind_error⟩
      | some identifier =>
        simp only [Except.mapError, perform_bind, perform_obtain]
        cases declaredTitle metadata with
        | error f => exact ⟨_, _, s.log, rfl⟩
        | ok title =>
          have hmove := gives_announceMove policy s identifier path location
          cases hv : verdict policy.strict
              (Registered.duplicates s.registry identifier path location) with
          | error f => exact ⟨_, _, (hv ▸ hmove).bind_error⟩
          | ok _ =>
            refine ⟨.error .registryFrozen, s.issues.addAll
              (Registered.duplicates s.registry identifier path location), ?_⟩
            refine (hv ▸ hmove).bind fun log => Gives.bind_error ?_
            exact gives_removePath_of_frozen (s := ⟨s.registry, _, log⟩) h path (some identifier)

/-- The operations by which pages are registered. -/
inductive Step.Registers : Step → Prop
  | begin : Registers .begin
  | freeze : Registers .freeze
  | prune : Registers .prune
  | register (metadata : Fields) (location : Path) : Registers (.register metadata location)

/-- Pruning keeps a registry consistent, be it open or frozen. -/
theorem consistent_prune {root : Path} {s : Session} (h : s.registry.Consistent root) :
    (s.perform prune).2.registry.Consistent root := by
  cases hf : s.registry.frozen with
  | true =>
    rw [prune, perform_bind, perform_changeRegistry, Registry.prune, Registry.removeWhere,
      Registry.change_of_frozen hf]
    exact h
  | false =>
    obtain ⟨names, log, hp⟩ := gives_prune hf
    rw [hp]
    exact h.pruned

/-- Registering a page keeps a registry consistent, be it open or frozen. -/
theorem consistent_register (policy : Policy) (metadata : Fields) (location : Path) {s : Session}
    (h : s.registry.Consistent policy.contentRoot) :
    (s.perform (register policy metadata location)).2.registry.Consistent
      policy.contentRoot := by
  cases hf : s.registry.frozen with
  | true =>
    obtain ⟨f, issues, log, hr⟩ := gives_register_of_frozen policy hf metadata location
    rw [hr]
    exact h
  | false =>
    obtain ⟨log, hr⟩ := gives_register policy hf metadata location
    rw [hr]
    exact Registered.consistent_ofPage policy metadata location h

/-- One operation keeps a registry consistent, also when it fails. -/
theorem consistent_step {policy : Policy} {s : Session} {st : Step} (hst : st.Registers)
    (h : s.registry.Consistent policy.contentRoot) :
    (step policy s st).2.registry.Consistent policy.contentRoot := by
  cases hst with
  | begin => exact h.begin
  | freeze => exact h.freeze
  | prune =>
    rw [step, Step.action, perform_map]
    exact consistent_prune (s := { s with log := [] }) h
  | register metadata location =>
    have hr := consistent_register policy metadata location (s := { s with log := [] }) h
    rw [step, Step.action, perform_bind]
    cases ho : perform { s with log := [] } (register policy metadata location) with
    | mk outcome t =>
      rw [ho] at hr
      cases outcome <;> exact hr

/-- Perform operations one after the other, each under a policy of its own, whether or not
earlier ones fail. -/
def runEach (s : Session) : List (Policy × Step) → Session
  | [] => s
  | (policy, st) :: rest => runEach (step policy s st).2 rest

/-- A history under one policy is one in which each operation has that policy. -/
theorem run_eq_runEach (policy : Policy) (s : Session) (sts : List Step) :
    run policy s sts = runEach s (sts.map fun st => (policy, st)) := by
  induction sts generalizing s with
  | nil => rfl
  | cons st rest ih => exact ih (step policy s st).2

/-- A history of registration keeps a registry consistent. -/
theorem consistent_runEach {root : Path} {history : List (Policy × Step)}
    (h : ∀ e ∈ history, e.1.contentRoot = root ∧ e.2.Registers) {s : Session}
    (hs : s.registry.Consistent root) : (runEach s history).registry.Consistent root := by
  induction history generalizing s with
  | nil => exact hs
  | cons e rest ih =>
    obtain ⟨hroot, hst⟩ := h e List.mem_cons_self
    refine ih (fun e he => h e (List.mem_cons_of_mem _ he)) ?_
    rw [← hroot] at hs ⊢
    exact consistent_step hst hs

/-- After every history of registration under one content root, from an empty registry, each
record is found under its identifier, its path is that of its file and its generation is not
later than the present one, and no two records have the same path. -/
theorem records_after_registration {root : Path} {history : List (Policy × Step)}
    (h : ∀ e ∈ history, e.1.contentRoot = root ∧ e.2.Registers) {s : Session}
    (hs : s.registry = .empty) :
    let r := (runEach s history).registry
    (∀ x ∈ r.records, r.get? x.identifier = some x ∧
      Location.canonical root x.sourceFile = .ok x.canonicalPath ∧
      x.generation ≤ r.generation) ∧
    r.records.Pairwise fun x y => x.canonicalPath ≠ y.canonicalPath := by
  have hempty : s.registry.Consistent root := hs ▸ Registry.Consistent.empty
  have hr := consistent_runEach h hempty
  refine ⟨fun x hx => ⟨?_, hr.located x hx, hr.dated x hx⟩, List.pairwise_map.mp hr.separate⟩
  exact (Registry.get?_eq_some_iff hr.toSound).mpr ⟨hx, rfl⟩

namespace Sample

/-- The rules of a small site. -/
def policy (strict : Bool) : Policy :=
  ⟨⟨.relative, ["content"]⟩, strict, .error, "https://example.org/repo", "main", true⟩

/-- A page of the site that declares an identifier. -/
def page (identifier name : String) : Step :=
  .register [(identifierField, .text identifier)] ⟨.relative, ["content", name]⟩

/-- Two pages declare one identifier, the second declaration and a page without one end a
strict build, a page changes its identifier, and one comes too late. -/
def history : List (Policy × Step) := [
  (policy false, .begin),
  (policy false, page "start" "a.md"),
  (policy false, page "start" "b.md"),
  (policy true, page "start" "c.md"),
  (policy true, page "begin" "b.mdx"),
  (policy false, page "tour" "c.md"),
  (policy true, .register [] ⟨.relative, ["content", "d.md"]⟩),
  (policy true, .freeze),
  (policy false, page "late" "e.md"),
  (policy false, .begin),
  (policy true, page "begin" "a.md"),
  (policy true, .register [] ⟨.relative, ["content", "c.md"]⟩)]

end Sample

theorem records_after_registration_sample :
    (runEach .empty Sample.history).registry.records =
      [⟨"begin", "/a", ⟨.relative, ["content", "a.md"]⟩, none, 2⟩] ∧
    ∀ x ∈ (runEach .empty Sample.history).registry.records,
      (runEach .empty Sample.history).registry.get? x.identifier = some x := by
  have hregisters : ∀ e ∈ Sample.history,
      e.1.contentRoot = ⟨.relative, ["content"]⟩ ∧ e.2.Registers := by
    simp only [Sample.history, Sample.page, Sample.policy, List.forall_mem_cons,
      List.not_mem_nil, IsEmpty.forall_iff, implies_true, and_true, true_and]
    repeat' constructor
  have hall := records_after_registration hregisters (s := .empty) rfl
  exact ⟨by decide +kernel, fun x hx => (hall.1 x hx).1⟩

end Session

end Crosslink
