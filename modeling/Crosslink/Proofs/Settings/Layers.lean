import Crosslink.Proofs.Settings.Fields
import Crosslink.Settings.Load

/-!
# Layers of settings

The mapping that is checked has four layers: what the caller wishes, what the environment says
about strictness, the configuration file, and what else the environment says. A field has the value
of the first layer that knows it. A wish that is null is none, but a null of the configuration file
is a value.
-/

namespace Crosslink

namespace Value

variable {key name : String} {value : Value} {entries : List (Value × Value)}

/-- Only the same text names the key that a text is. -/
theorem sameKey_text {k : Value} : k.sameKey (.text name) = true ↔ k = .text name := by
  unfold sameKey whole?
  cases k with
  | float x => cases h : x.whole? <;> simp [h]
  | _ => simp

theorem lookup?_cons (k v : Value) : lookup? name ((k, v) :: entries) =
    if k.sameKey (.text name) then some v else lookup? name entries := by
  by_cases h : k.sameKey (.text name) = true
  · obtain rfl := sameKey_text.mp h
    simp [h, lookup?]
  · rw [if_neg h]
    cases k with
    | text s =>
      have hne : s ≠ name := fun heq => h (sameKey_text.mpr (congrArg text heq))
      simp [lookup?, hne]
    | _ => rfl

/-- A key that was just written has the value that was written. -/
theorem lookup?_putEntry_self :
    lookup? name (putEntry (.text name) value entries) = some value := by
  induction entries with
  | nil => simp [putEntry, lookup?]
  | cons e rest ih =>
    obtain ⟨k, v⟩ := e
    rw [putEntry]
    by_cases h : k.sameKey (.text name) <;> simp [h, lookup?_cons, ih]

/-- Writing a key leaves every other key alone. -/
theorem lookup?_putEntry_of_ne (hne : name ≠ key) :
    lookup? name (putEntry (.text key) value entries) = lookup? name entries := by
  have hkey : ∀ k : Value, k.sameKey (.text key) = true → k.sameKey (.text name) = false := by
    intro k hk
    rw [sameKey_text.mp hk, Bool.eq_false_iff, Ne, sameKey_text]
    rintro ⟨⟩
    exact hne rfl
  induction entries with
  | nil => simp [putEntry, lookup?_cons, hkey (.text key) (sameKey_text.mpr rfl)]
  | cons e rest ih =>
    obtain ⟨k, v⟩ := e
    rw [putEntry]
    by_cases h : k.sameKey (.text key)
    · simp [h, lookup?_cons, hkey k h]
    · simp [h, lookup?_cons, ih]

theorem lookup?_append {more : List (Value × Value)} :
    lookup? name (entries ++ more) = (lookup? name entries).or (lookup? name more) := by
  rw [lookup?, List.find?_append, Option.map_or]
  rfl

/-- Writing an entry brings no other key. -/
theorem key_of_mem_putEntry {k : Value} {e : Value × Value} (h : e ∈ putEntry k value entries) :
    e.1 = k ∨ ∃ e' ∈ entries, e'.1 = e.1 := by
  induction entries with
  | nil => exact .inl (by simp_all [putEntry])
  | cons first rest ih =>
    rw [putEntry] at h
    split at h
    · rcases List.mem_cons.mp h with rfl | h
      · exact .inr ⟨first, List.mem_cons_self, rfl⟩
      · exact .inr ⟨e, List.mem_cons_of_mem _ h, rfl⟩
    · rcases List.mem_cons.mp h with rfl | h
      · exact .inr ⟨_, List.mem_cons_self, rfl⟩
      · obtain hk | ⟨e', he', hkey⟩ := ih h
        · exact .inl hk
        · exact .inr ⟨e', List.mem_cons_of_mem _ he', hkey⟩

end Value

namespace Settings

variable {name : String} {build : BuildVariables} {wishes : Fields}
  {entries : List (Value × Value)}

/-- A value that is there and is not null. -/
def nonNull : Option Value → Option Value
  | some .null => none
  | v => v

/-- Text that is not empty, as a value. -/
def nonEmpty (text : String) : Option Value := if text = "" then none else some (.text text)

/-- The value that a caller wishes for a field: the last one that is not null. -/
def wished? (name : String) (wishes : Fields) : Option Value :=
  wishes.reverse.findSome? fun w => if w.1 = name then nonNull (some w.2) else none

@[simp] theorem nonNull_nonNull (v : Option Value) : nonNull (nonNull v) = nonNull v := by
  rcases v with - | (_ | _) <;> rfl

theorem nonNull_or {v w : Option Value} (h : nonNull v = v) :
    nonNull (v.or w) = v.or (nonNull w) := by
  cases v with
  | none => rfl
  | some v => simpa using h

theorem nonNull_bool (b : Option Bool) : nonNull (b.map .bool) = b.map .bool := by
  cases b <;> rfl

/-- A wish is never null. -/
theorem nonNull_wished? : nonNull (wished? name wishes) = wished? name wishes := by
  cases h : wished? name wishes with
  | none => rfl
  | some v =>
    obtain ⟨w, -, hw⟩ := List.exists_of_findSome?_eq_some h
    split at hw
    · rw [← hw, nonNull_nonNull]
    · cases hw

theorem lookup?_override (key : String) (v : Option Value) :
    Value.lookup? name (override key v entries) =
      if key = name then (nonNull v).or (Value.lookup? name entries)
      else Value.lookup? name entries := by
  by_cases hkey : key = name
  · subst hkey
    rcases v with - | (_ | _) <;> simp [override, nonNull, Value.lookup?_putEntry_self]
  · rcases v with - | (_ | _) <;>
      simp [override, hkey, Value.lookup?_putEntry_of_ne (Ne.symm hkey)]

theorem lookup?_fill (key text : String) :
    Value.lookup? name (fill key text entries) =
      if key = name then (Value.lookup? name entries).or (nonEmpty text)
      else Value.lookup? name entries := by
  have hself : Value.lookup? name [(.text key, .text text)] =
      if key = name then some (.text text) else none := by
    by_cases h : key = name <;> simp [Value.lookup?, h]
  rw [fill]
  by_cases htext : text = ""
  · simp [htext, nonEmpty]
  · by_cases hkey : key = name
    · subst hkey
      cases h : Value.lookup? key entries <;> simp [htext, h, nonEmpty, Value.lookup?_append, hself]
    · split <;> simp [hkey, Value.lookup?_append, hself]

theorem lookup?_foldl_override :
    Value.lookup? name (wishes.foldl (fun acc w => override w.1 (some w.2) acc) entries) =
      (wished? name wishes).or (Value.lookup? name entries) := by
  induction wishes generalizing entries with
  | nil => rfl
  | cons w rest ih =>
    rw [List.foldl_cons, ih, lookup?_override, wished?, wished?, List.reverse_cons,
      List.findSome?_append, Option.or_assoc]
    by_cases h : w.1 = name
    · cases hw : nonNull (some w.2) <;> simp [h, hw]
    · simp [h]

/-- The value of strictness: what the caller wishes, else the variable, else that of the file. -/
theorem lookup?_combine_strict : Value.lookup? "strict_mode" (combine build wishes entries) =
    (wished? "strict_mode" wishes).or
      ((build.strict.map .bool).or (Value.lookup? "strict_mode" entries)) := by
  simp [combine, lookup?_foldl_override, lookup?_override, lookup?_fill, nonNull_bool]

/-- The value of a field that variables fill in if the file leaves it out. -/
theorem lookup?_combine_address : Value.lookup? "repo_base_url" (combine build wishes entries) =
    (wished? "repo_base_url" wishes).or
      ((Value.lookup? "repo_base_url" entries).or (nonEmpty build.repoBaseUrl)) := by
  simp [combine, lookup?_foldl_override, lookup?_override, lookup?_fill]

theorem lookup?_combine_branch : Value.lookup? "default_branch" (combine build wishes entries) =
    (wished? "default_branch" wishes).or
      ((Value.lookup? "default_branch" entries).or (nonEmpty build.defaultBranch)) := by
  simp [combine, lookup?_foldl_override, lookup?_override, lookup?_fill]

/-- The value of a field that no variable is about. -/
theorem lookup?_combine_other (h : name ∉ ["strict_mode", "repo_base_url", "default_branch"]) :
    Value.lookup? name (combine build wishes entries) =
      (wished? name wishes).or (Value.lookup? name entries) := by
  simp only [List.mem_cons, List.not_mem_nil, or_false, not_or, eq_comm (a := name)] at h
  simp [combine, lookup?_foldl_override, lookup?_override, lookup?_fill, h.1, h.2.1, h.2.2]

/-- A field that may be null, with a fallback, is read from what is not null. -/
theorem readFrom_nonNull {α : Type} {read : Value → Except Rule α} {fallback : α}
    {value : Option Value} {a : Option α} (h : ReadFrom (readOptional read) none value a) :
    ReadFrom read fallback (nonNull value) (a.getD fallback) := by
  have hsome : ∀ v, (read v).map some = .ok a → ReadFrom read fallback (some v) (a.getD fallback) := by
    intro v hv
    cases hread : read v with
    | error rule => simp [hread, Except.map] at hv
    | ok b =>
      obtain rfl : some b = a := by simpa [hread, Except.map] using hv
      exact hread
  cases value with
  | none =>
    obtain rfl : a = none := h
    rfl
  | some v =>
    cases v with
    | null =>
      obtain rfl : none = a := by simpa [ReadFrom, readOptional] using h
      rfl
    | _ => exact hsome _ h

end Settings

end Crosslink
