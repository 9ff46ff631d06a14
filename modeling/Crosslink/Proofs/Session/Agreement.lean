import Mathlib.Data.List.Nodup
import Crosslink.Proofs.Session.Fate
import Crosslink.Proofs.Session.Registered

/-!
# Registries that agree

Two registries agree when their present generations have written the same records, whatever
records of earlier generations they still hold. Registration keeps registries in agreement and
does the same on both, so once earlier records are pruned they differ in dates alone.
-/

namespace Crosslink

namespace Registry

/-- The present generations of two sound registries have written the same. -/
structure Agree (a b : Registry) : Prop where
  left : a.Sound
  right : b.Sound
  current : ∀ identifier, a.current identifier = b.current identifier

namespace Agree

variable {a b : Registry}

/-- All registries agree at the beginning of a generation. -/
theorem begin (ha : a.Sound) (hb : b.Sound) : a.begin.Agree b.begin :=
  ⟨ha.begin, hb.begin, fun id => by rw [current_begin ha, current_begin hb]⟩

theorem without (h : a.Agree b) (path : String) (keep : Option String) :
    (a.without path keep).Agree (b.without path keep) :=
  ⟨h.left.without path keep, h.right.without path keep, fun id => by
    rw [current_without h.left, current_without h.right, h.current]⟩

theorem written (h : a.Agree b) (record : Record) : (a.written record).Agree (b.written record) :=
  ⟨h.left.written record, h.right.written record, fun id => by
    rw [current_written, current_written, h.current]⟩

/-- Registries that agree hold the same records once they are pruned. -/
theorem get?_pruned (h : a.Agree b) (identifier : String) :
    (a.pruned.get? identifier).map Record.undated =
      (b.pruned.get? identifier).map Record.undated := by
  rw [Registry.get?_pruned h.left, Registry.get?_pruned h.right, h.current]

end Agree

/-- In a sound registry a record is found under its identifier and no other one is. -/
theorem get?_eq_some_iff {r : Registry} (h : r.Sound) {identifier : String} {x : Record} :
    r.get? identifier = some x ↔ x ∈ r.records ∧ x.identifier = identifier := by
  constructor
  · intro hx
    exact ⟨List.mem_of_find?_eq_some hx, by simpa using List.find?_some hx⟩
  · rintro ⟨hx, rfl⟩
    cases hg : r.get? x.identifier with
    | none =>
      have hnone := List.find?_eq_none.mp hg x hx
      simp at hnone
    | some y =>
      have hy : y.identifier = x.identifier := by simpa using List.find?_some hg
      rw [List.inj_on_of_nodup_map h.distinct (List.mem_of_find?_eq_some hg) hx hy]

theorem mem_undated_iff {r : Registry} (h : r.Sound) (x : Record) :
    x ∈ r.records.map Record.undated ↔ (r.get? x.identifier).map Record.undated = some x := by
  rw [List.mem_map, Option.map_eq_some_iff]
  refine exists_congr fun y => ⟨?_, ?_⟩
  · rintro ⟨hy, rfl⟩
    exact ⟨(get?_eq_some_iff h).mpr ⟨hy, rfl⟩, rfl⟩
  · rintro ⟨hy, rfl⟩
    exact ⟨((get?_eq_some_iff h).mp hy).1, rfl⟩

theorem nodup_undated {r : Registry} (h : r.Sound) : (r.records.map Record.undated).Nodup := by
  refine List.Nodup.of_map (·.identifier) ?_
  rw [List.map_map]
  exact h.distinct

/-- Sound registries that find the same have the same records, up to dates and order. -/
theorem perm_undated {a b : Registry} (ha : a.Sound) (hb : b.Sound)
    (h : ∀ identifier, (a.get? identifier).map Record.undated =
      (b.get? identifier).map Record.undated) :
    (a.records.map Record.undated).Perm (b.records.map Record.undated) := by
  rw [List.perm_ext_iff_of_nodup (nodup_undated ha) (nodup_undated hb)]
  intro x
  rw [mem_undated_iff ha, mem_undated_iff hb, h]

end Registry

namespace Registered

/-- Two registrations ended alike, reported the same and left registries that agree. -/
structure Agree (x y : Registered) : Prop where
  outcome : x.outcome = y.outcome
  issues : x.issues = y.issues
  registry : x.registry.Agree y.registry

variable {a b : Registry}

theorem duplicates_congr (h : a.Agree b) (identifier path : String) (location : Path) :
    duplicates a identifier path location = duplicates b identifier path location := by
  rw [duplicates, duplicates, h.current]

/-- A page is registered alike on registries that agree. -/
theorem agree_ofPage (h : a.Agree b) (policy : Policy) (metadata : Fields) (location : Path) :
    (ofPage policy metadata location a).Agree (ofPage policy metadata location b) := by
  rw [ofPage, ofPage]
  cases Location.canonical policy.contentRoot location with
  | error e => exact ⟨rfl, rfl, h⟩
  | ok path =>
    cases declaredIdentifier metadata with
    | error f => exact ⟨rfl, rfl, h⟩
    | ok identifier? =>
      cases identifier? with
      | none => exact ⟨rfl, rfl, h.without path none⟩
      | some identifier =>
        cases declaredTitle metadata with
        | error f => exact ⟨rfl, rfl, h⟩
        | ok title =>
          simp only [declared, duplicates_congr h]
          cases Session.verdict policy.strict (duplicates b identifier path location) with
          | error f => exact ⟨rfl, rfl, h⟩
          | ok _ => exact ⟨rfl, rfl, (h.without path (some identifier)).written _⟩

theorem agree_ofPages (policy : Policy) (pages : List Page) (h : a.Agree b) :
    (ofPages policy pages a).Agree (ofPages policy pages b) := by
  induction pages generalizing a b with
  | nil => exact ⟨rfl, rfl, h⟩
  | cons page rest ih =>
    obtain ⟨houtcome, hissues, hregistry⟩ := agree_ofPage h policy page.metadata page.sourceFile
    rw [ofPages, ofPages]
    simp only [houtcome]
    cases (ofPage policy page.metadata page.sourceFile b).outcome with
    | error f => exact ⟨rfl, hissues, hregistry⟩
    | ok _ =>
      obtain ⟨houtcome', hissues', hregistry'⟩ := ih hregistry
      exact ⟨houtcome', by simp only [hissues, hissues'], hregistry'⟩

/-- A first phase does not depend on the records of earlier generations. -/
theorem all_congr (ha : a.Sound) (hb : b.Sound) (policy : Policy) (pages : List Page) :
    (all policy pages a).outcome = (all policy pages b).outcome ∧
      (all policy pages a).issues = (all policy pages b).issues ∧
      ((all policy pages b).outcome = .ok () → ∀ identifier,
        ((all policy pages a).registry.get? identifier).map Record.undated =
          ((all policy pages b).registry.get? identifier).map Record.undated) := by
  obtain ⟨houtcome, hissues, hregistry⟩ :=
    agree_ofPages policy (Build.registrationOrder pages) (Registry.Agree.begin ha hb)
  rw [all, all]
  simp only [houtcome]
  cases (ofPages policy (Build.registrationOrder pages) b.begin).outcome with
  | error f => exact ⟨rfl, hissues, fun h => by cases h⟩
  | ok _ => exact ⟨rfl, hissues, fun _ => hregistry.get?_pruned⟩

end Registered

end Crosslink
