import Crosslink.Error

/-!
# The registry

Which page declares which identifier. Identifiers are kept in the order in which they were
first registered. A registry is open while a generation of pages is registered and frozen
while links are resolved: writes fail when it is frozen, and lookups fail when it is open.
-/

namespace Crosslink

/-- The declaration of an identifier by a page. -/
structure Record where
  identifier : String
  canonicalPath : String
  sourceFile : Path
  title : Option String
  /-- The generation in which the record was written. -/
  generation : Nat
  deriving DecidableEq, Repr

/-- The records of all identifiers. -/
structure Registry where
  records : List Record
  frozen : Bool
  generation : Nat
  deriving DecidableEq, Repr

namespace Registry

/-- The registry before the first generation. -/
def empty : Registry := ⟨[], false, 0⟩

/-- The record of an identifier, in any phase. -/
def get? (r : Registry) (identifier : String) : Option Record :=
  r.records.find? fun x => x.identifier == identifier

/-- Is there a record of the identifier? -/
def contains (r : Registry) (identifier : String) : Bool := (r.get? identifier).isSome

/-- Open the registry for a new generation; the records stay. -/
def begin (r : Registry) : Registry := { r with frozen := false, generation := r.generation + 1 }

/-- Close the registry for writing. -/
def freeze (r : Registry) : Registry := { r with frozen := true }

/-- Write a record: in place if its identifier is there, at the end if not. -/
def putRecord (record : Record) : List Record → List Record
  | [] => [record]
  | x :: rest =>
    if x.identifier == record.identifier then record :: rest else x :: putRecord record rest

/-- The registry after a change of its records, which must be open. -/
def change {α : Type} (r : Registry) (answer : α) (records : List Record) :
    Except Error (α × Registry) :=
  if r.frozen then .error .registryFrozen else .ok (answer, { r with records })

/-- Write a record for the present generation; the answer is the record it replaces. -/
def put (r : Registry) (record : Record) : Except Error (Option Record × Registry) :=
  r.change (r.get? record.identifier)
    (putRecord { record with generation := r.generation } r.records)

/-- Remove the records that satisfy a test; the answer is their identifiers. -/
def removeWhere (r : Registry) (test : Record → Bool) : Except Error (List String × Registry) :=
  r.change ((r.records.filter test).map (·.identifier)) (r.records.filter fun x => !test x)

/-- Remove the records of a canonical path, except that of one identifier. -/
def removePath (r : Registry) (path : String) (keep : Option String) :
    Except Error (List String × Registry) :=
  r.removeWhere fun x => x.canonicalPath == path && some x.identifier != keep

/-- Remove the records that the present generation has not written. -/
def prune (r : Registry) : Except Error (List String × Registry) :=
  r.removeWhere fun x => x.generation < r.generation

/-- The record of an identifier once all pages are registered. -/
def lookup (r : Registry) (identifier : String) : Except Error (Option Record) :=
  if r.frozen then .ok (r.get? identifier) else .error (.registryOpen identifier)

/-- All records in the order of their identifiers. -/
def sorted (r : Registry) : List Record :=
  r.records.mergeSort fun x y => !decide (y.identifier < x.identifier)

/-- A record that was written is found under its identifier. -/
theorem find?_putRecord_self (record : Record) (rs : List Record) :
    ((putRecord record rs).find? fun x => x.identifier == record.identifier) = some record := by
  induction rs with
  | nil => simp [putRecord]
  | cons x rest ih =>
    by_cases h : x.identifier == record.identifier
    · simp [putRecord, h]
    · simpa [putRecord, h] using ih

/-- Writing one record leaves the records of other identifiers alone. -/
theorem find?_putRecord_of_ne {record : Record} {identifier : String}
    (h : identifier ≠ record.identifier) (rs : List Record) :
    ((putRecord record rs).find? fun x => x.identifier == identifier)
      = rs.find? fun x => x.identifier == identifier := by
  have hn : (record.identifier == identifier) = false := by simpa using fun e => h e.symm
  induction rs with
  | nil => simp [putRecord, hn]
  | cons x rest ih =>
    by_cases hx : x.identifier == record.identifier
    · have he : x.identifier = record.identifier := by simpa using hx
      simp [putRecord, hn, he]
    · by_cases ho : x.identifier == identifier
      · simp [putRecord, hx, ho]
      · simpa [putRecord, hx, ho] using ih

/-- No change of records succeeds on a frozen registry. -/
theorem change_of_frozen {α : Type} {r : Registry} (h : r.frozen = true) (answer : α)
    (records : List Record) : r.change answer records = .error .registryFrozen := by
  simp [change, h]

end Registry

end Crosslink
