import Crosslink.Proofs.Session.Fate

/-!
# Strict registration

A strict first phase does what a permissive one does up to the first issue, and ends there. So
it is settled by the permissive one: where that has no issues the two are the same, whatever
happens, and otherwise the first issue is the failure of the strict phase.
-/

namespace Crosslink

/-- The policy with a given strictness. -/
abbrev Policy.withStrict (policy : Policy) (strict : Bool) : Policy := { policy with strict }

namespace Registered

/-- A strict registration compared with a permissive one. -/
structure Enforces (strict permissive : Registered) : Prop where
  same : permissive.issues = [] → strict = permissive
  aborted : ∀ i, permissive.issues.head? = some i →
    strict.outcome = .error (.error (.buildAborted i))

namespace Enforces

variable {strict permissive : Registered}

/-- Registrations without issues do not differ. -/
theorem refl (h : permissive.issues = []) : Enforces permissive permissive :=
  ⟨fun _ => rfl, fun i hi => by simp [h] at hi⟩

/-- A strict registration ends with the first issue. -/
theorem stop {i : Issue} (hi : permissive.issues.head? = some i)
    (h : strict.outcome = .error (.error (.buildAborted i))) : Enforces strict permissive where
  same hnil := by simp [hnil] at hi
  aborted j hj := by rw [h, Option.some.inj (hi.symm.trans hj)]

/-- A strict registration that is completed is the permissive one, which has no issues. -/
theorem of_ok (h : Enforces strict permissive) (hok : strict.outcome = .ok ()) :
    permissive.issues = [] ∧ strict = permissive := by
  cases hi : permissive.issues.head? with
  | none =>
    have hnil := List.head?_eq_none_iff.mp hi
    exact ⟨hnil, h.same hnil⟩
  | some i =>
    rw [h.aborted i hi] at hok
    cases hok

end Enforces

variable (policy : Policy)

theorem enforces_undeclared (location : Path) (path : String) (r : Registry) :
    Enforces (undeclared (policy.withStrict true) location path r)
      (undeclared (policy.withStrict false) location path r) := by
  have hmissing : missing (policy.withStrict true) location =
    missing (policy.withStrict false) location := rfl
  rw [undeclared, undeclared, hmissing]
  cases missing (policy.withStrict false) location with
  | nil => exact .refl rfl
  | cons i rest => exact .stop rfl rfl

theorem enforces_declared (identifier path : String) (location : Path) (title : Option String)
    (r : Registry) :
    Enforces (declared (policy.withStrict true) identifier path location title r)
      (declared (policy.withStrict false) identifier path location title r) := by
  rw [declared, declared]
  cases duplicates r identifier path location with
  | nil => exact .refl rfl
  | cons i rest => exact .stop rfl rfl

/-- A strict registration of a page is settled by the permissive one. -/
theorem enforces_ofPage (metadata : Fields) (location : Path) (r : Registry) :
    Enforces (ofPage (policy.withStrict true) metadata location r)
      (ofPage (policy.withStrict false) metadata location r) := by
  rw [ofPage, ofPage]
  cases Location.canonical policy.contentRoot location with
  | error e => exact .refl rfl
  | ok path =>
    cases declaredIdentifier metadata with
    | error f => exact .refl rfl
    | ok identifier? =>
      cases identifier? with
      | none => exact enforces_undeclared policy location path r
      | some identifier =>
        cases declaredTitle metadata with
        | error f => exact .refl rfl
        | ok title => exact enforces_declared policy identifier path location title r

theorem enforces_ofPages (pages : List Page) (r : Registry) :
    Enforces (ofPages (policy.withStrict true) pages r)
      (ofPages (policy.withStrict false) pages r) := by
  induction pages generalizing r with
  | nil => exact .refl rfl
  | cons page rest ih =>
    have hpage := enforces_ofPage policy page.metadata page.sourceFile r
    rw [ofPages, ofPages]
    generalize ofPage (policy.withStrict true) page.metadata page.sourceFile r = s at hpage ⊢
    generalize ofPage (policy.withStrict false) page.metadata page.sourceFile r = p at hpage ⊢
    cases hi : p.issues.head? with
    | none =>
      -- so far both are the same
      have hnil := List.head?_eq_none_iff.mp hi
      rw [hpage.same hnil]
      cases p.outcome with
      | error f => exact .refl hnil
      | ok _ =>
        have hrest := ih p.registry
        simp only [hnil, List.nil_append]
        exact ⟨fun h => by rw [hrest.same h], hrest.aborted⟩
    | some i =>
      rw [hpage.aborted i hi]
      refine .stop ?_ rfl
      cases p.outcome with
      | error f => exact hi
      | ok _ => exact (List.head?_append.trans (by rw [hi]; rfl))

/-- A strict first phase is settled by the permissive one. -/
theorem enforces_all (pages : List Page) (r : Registry) :
    Enforces (all (policy.withStrict true) pages r) (all (policy.withStrict false) pages r) := by
  have hpages := enforces_ofPages policy (Build.registrationOrder pages) r.begin
  rw [all, all]
  generalize ofPages (policy.withStrict true) (Build.registrationOrder pages) r.begin = s
    at hpages ⊢
  generalize ofPages (policy.withStrict false) (Build.registrationOrder pages) r.begin = p
    at hpages ⊢
  cases hi : p.issues.head? with
  | none =>
    have hnil := List.head?_eq_none_iff.mp hi
    rw [hpages.same hnil]
    cases p.outcome <;> exact .refl hnil
  | some i =>
    rw [hpages.aborted i hi]
    cases p.outcome <;> exact .stop hi rfl

end Registered

end Crosslink
