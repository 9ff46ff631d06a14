import Crosslink.Registry

/-!
# The current generation of a registry

A registry keeps the records of earlier generations until the present one is complete. Here
the changes of an open registry are given as functions, and what the present generation has
written is read off as `Registry.current`. Every change acts on that part alone, so records
of earlier generations leave no trace once they are pruned.
-/

namespace Crosslink

/-- A record without the generation in which it was written. -/
def Record.undated (x : Record) : Record := { x with generation := 0 }

namespace Registry

/-- The registry without the records of a path, except that of one identifier. -/
def without (r : Registry) (path : String) (keep : Option String) : Registry :=
  { r with
    records := r.records.filter fun x => !(x.canonicalPath == path && some x.identifier != keep) }

/-- The registry with a record of the present generation. -/
def written (r : Registry) (record : Record) : Registry :=
  { r with records := putRecord { record with generation := r.generation } r.records }

/-- The registry with the records of the present generation only. -/
def pruned (r : Registry) : Registry :=
  { r with records := r.records.filter fun x => !decide (x.generation < r.generation) }

/-- Each identifier has one record, and none is of a later generation than the present one. -/
structure Sound (r : Registry) : Prop where
  distinct : (r.records.map (·.identifier)).Nodup
  dated : ∀ x ∈ r.records, x.generation ≤ r.generation

/-- The record that the present generation has written for an identifier, undated. -/
def current (r : Registry) (identifier : String) : Option Record :=
  ((r.get? identifier).filter fun x => x.generation == r.generation).map Record.undated

theorem removePath_of_open {r : Registry} (h : r.frozen = false) (path : String)
    (keep : Option String) :
    ∃ names, r.removePath path keep = .ok (names, r.without path keep) := by
  simp [removePath, removeWhere, change, h, without]

theorem put_of_open {r : Registry} (h : r.frozen = false) (record : Record) :
    r.put record = .ok (r.get? record.identifier, r.written record) := by
  simp [put, change, h, written]

theorem prune_of_open {r : Registry} (h : r.frozen = false) :
    ∃ names, r.prune = .ok (names, r.pruned) := by
  simp [prune, removeWhere, change, h, pruned]

@[simp] theorem generation_without (r : Registry) (path : String) (keep : Option String) :
    (r.without path keep).generation = r.generation := rfl

@[simp] theorem generation_written (r : Registry) (record : Record) :
    (r.written record).generation = r.generation := rfl

/-- The identifiers after a record is written: the old ones, and its own at the end if new. -/
theorem identifiers_putRecord (record : Record) (rs : List Record) :
    (putRecord record rs).map (·.identifier) =
      if record.identifier ∈ rs.map (·.identifier) then rs.map (·.identifier)
      else rs.map (·.identifier) ++ [record.identifier] := by
  induction rs with
  | nil => simp [putRecord]
  | cons x rest ih =>
    by_cases h : x.identifier = record.identifier
    · simp [putRecord, h]
    · have h' : record.identifier ≠ x.identifier := fun e => h e.symm
      simp only [putRecord, beq_iff_eq, h, if_false, List.map_cons, ih, List.mem_cons, h',
        false_or]
      split <;> rfl

theorem mem_putRecord {record x : Record} {rs : List Record} (h : x ∈ putRecord record rs) :
    x = record ∨ x ∈ rs := by
  induction rs with
  | nil => exact .inl (by simpa [putRecord] using h)
  | cons y rest ih =>
    by_cases hy : y.identifier = record.identifier
    · rw [putRecord, if_pos (by simpa using hy)] at h
      exact (List.mem_cons.mp h).imp id (List.mem_cons_of_mem _)
    · rw [putRecord, if_neg (by simpa using hy)] at h
      rcases List.mem_cons.mp h with rfl | h
      · exact .inr List.mem_cons_self
      · exact (ih h).imp id (List.mem_cons_of_mem _)

/-- Where each identifier has one record, a record is found among those that pass a test
exactly when it is found and passes. -/
theorem find?_filter_of_distinct {rs : List Record}
    (h : (rs.map (·.identifier)).Nodup) (test : Record → Bool) (identifier : String) :
    ((rs.filter test).find? fun x => x.identifier == identifier) =
      (rs.find? fun x => x.identifier == identifier).filter test := by
  induction rs with
  | nil => rfl
  | cons x rest ih =>
    obtain ⟨hx, hrest⟩ := List.nodup_cons.mp h
    by_cases hi : x.identifier = identifier
    · subst hi
      by_cases ht : test x = true
      · rw [List.filter_cons_of_pos ht, List.find?_cons_of_pos (by simp),
          List.find?_cons_of_pos (by simp), Option.filter_some_pos ht]
      · have hnone : (rest.find? fun y => y.identifier == x.identifier) = none := by
          rw [List.find?_eq_none]
          intro y hy he
          exact hx (List.mem_map.mpr ⟨y, hy, by simpa using he⟩)
        rw [List.filter_cons_of_neg ht, ih hrest, hnone]
        simp [ht, Option.filter_some]
    · rw [List.find?_cons_of_neg (by simpa using hi), ← ih hrest]
      by_cases ht : test x = true
      · rw [List.filter_cons_of_pos ht, List.find?_cons_of_neg (by simpa using hi)]
      · rw [List.filter_cons_of_neg ht]

namespace Sound

variable {r : Registry}

theorem empty : Sound Registry.empty := ⟨List.nodup_nil, by simp [Registry.empty]⟩

theorem begin (h : r.Sound) : r.begin.Sound :=
  ⟨h.distinct, fun x hx => Nat.le_succ_of_le (h.dated x hx)⟩

theorem freeze (h : r.Sound) : r.freeze.Sound := ⟨h.distinct, h.dated⟩

/-- Removing records keeps a registry sound. -/
theorem filter (h : r.Sound) (test : Record → Bool) :
    Sound { r with records := r.records.filter test } :=
  ⟨h.distinct.sublist (List.filter_sublist.map _),
    fun x hx => h.dated x (List.mem_filter.mp hx).1⟩

theorem without (h : r.Sound) (path : String) (keep : Option String) :
    (r.without path keep).Sound := h.filter _

theorem pruned (h : r.Sound) : r.pruned.Sound := h.filter _

/-- Writing a record of the present generation keeps a registry sound. -/
theorem written (h : r.Sound) (record : Record) : (r.written record).Sound := by
  refine ⟨?_, ?_⟩
  · rw [Registry.written, identifiers_putRecord]
    split
    · exact h.distinct
    · rename_i hnew
      exact List.nodup_append.mpr ⟨h.distinct, by simp, by
        intro a ha b hb
        rw [List.mem_singleton.mp hb]
        exact fun e => hnew (e ▸ ha)⟩
  · intro x hx
    rcases mem_putRecord hx with rfl | hx
    · exact Nat.le_refl _
    · exact h.dated x hx

end Sound

/-- The registries that operations lead to, one after the other, from the empty one. -/
inductive Reachable : Registry → Prop
  | empty : Reachable .empty
  | begin {r : Registry} (h : Reachable r) : Reachable r.begin
  | freeze {r : Registry} (h : Reachable r) : Reachable r.freeze
  | put {r r' : Registry} {record : Record} {replaced : Option Record} (h : Reachable r)
      (hput : r.put record = .ok (replaced, r')) : Reachable r'
  | removePath {r r' : Registry} {path : String} {keep : Option String} {names : List String}
      (h : Reachable r) (hremove : r.removePath path keep = .ok (names, r')) : Reachable r'
  | prune {r r' : Registry} {names : List String} (h : Reachable r)
      (hprune : r.prune = .ok (names, r')) : Reachable r'

/-- A change of records that goes through sets the records. -/
theorem of_change_ok {α : Type} {r r' : Registry} {answer a : α} {records : List Record}
    (h : r.change answer records = .ok (a, r')) : r' = { r with records } := by
  rw [change] at h
  split at h
  · cases h
  · cases h
    rfl

theorem Reachable.sound {r : Registry} (h : r.Reachable) : r.Sound := by
  induction h with
  | empty => exact Sound.empty
  | begin _ ih => exact ih.begin
  | freeze _ ih => exact ih.freeze
  | @put r r' record _ _ hput ih =>
    rw [Registry.put] at hput
    rw [of_change_ok hput]
    exact ih.written record
  | removePath _ hremove ih =>
    rw [Registry.removePath, removeWhere] at hremove
    rw [of_change_ok hremove]
    exact ih.filter _
  | prune _ hprune ih =>
    rw [Registry.prune, removeWhere] at hprune
    rw [of_change_ok hprune]
    exact ih.filter _

/-- A new generation begins with nothing written. -/
theorem current_begin {r : Registry} (h : r.Sound) (identifier : String) :
    r.begin.current identifier = none := by
  rw [current, Option.map_eq_none_iff, Option.filter_eq_none_iff]
  intro x hx
  have hle := h.dated x (List.mem_of_find?_eq_some hx)
  have hne : x.generation ≠ r.generation + 1 := by omega
  simpa [begin] using hne

/-- A test that does not look at generations may be made before or after dates are dropped. -/
private theorem map_undated_filter {test : Record → Bool} (h : ∀ x, test x.undated = test x)
    (present : Record → Bool) (x : Option Record) :
    ((x.filter test).filter present).map Record.undated =
      ((x.filter present).map Record.undated).filter test := by
  cases x with
  | none => rfl
  | some x =>
    by_cases ht : test x = true <;> by_cases hp : present x = true <;>
      simp [Option.filter_some, ht, hp, h]

/-- Removing the records of a path removes those of the present generation. -/
theorem current_without {r : Registry} (h : r.Sound) (path : String) (keep : Option String)
    (identifier : String) :
    (r.without path keep).current identifier = (r.current identifier).filter
      fun x => !(x.canonicalPath == path && some x.identifier != keep) := by
  have hfind : (r.without path keep).get? identifier = (r.get? identifier).filter
      fun x => !(x.canonicalPath == path && some x.identifier != keep) :=
    find?_filter_of_distinct h.distinct _ _
  rw [current, hfind, current, generation_without, map_undated_filter]
  exact fun _ => rfl

/-- A written record is the present one of its identifier, and no other one changes. -/
theorem current_written (r : Registry) (record : Record) (identifier : String) :
    (r.written record).current identifier =
      if identifier = record.identifier then some record.undated else r.current identifier := by
  by_cases h : identifier = record.identifier
  · subst h
    have hfind : (r.written record).get? record.identifier =
        some { record with generation := r.generation } :=
      find?_putRecord_self { record with generation := r.generation } r.records
    rw [current, hfind]
    simp [Record.undated, Option.filter_some]
  · let stamped : Record := { record with generation := r.generation }
    have hne : identifier ≠ stamped.identifier := h
    have hfind : (r.written record).get? identifier = r.get? identifier :=
      find?_putRecord_of_ne hne r.records
    rw [current, hfind, if_neg h]
    rfl

/-- After pruning, the records are those of the present generation. -/
theorem get?_pruned {r : Registry} (h : r.Sound) (identifier : String) :
    (r.pruned.get? identifier).map Record.undated = r.current identifier := by
  have hfind : r.pruned.get? identifier =
      (r.get? identifier).filter fun x => !decide (x.generation < r.generation) :=
    find?_filter_of_distinct h.distinct _ _
  rw [hfind, current]
  cases hx : r.get? identifier with
  | none => rfl
  | some x =>
    have hle := h.dated x (List.mem_of_find?_eq_some hx)
    have hiff : decide (x.generation < r.generation) = !(x.generation == r.generation) := by
      rw [Bool.eq_iff_iff]
      simp
      omega
    simp [Option.filter_some, hiff]

end Registry

end Crosslink
