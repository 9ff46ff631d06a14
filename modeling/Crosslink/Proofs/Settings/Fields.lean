import Crosslink.Proofs.Except
import Crosslink.Settings.Configuration

/-!
# Fields of a mapping

What it takes that a mapping is accepted as a configuration: each of its keys names a field, and
each field of the configuration is read from the value under its name, or is the default where the
name is missing. No field depends on the value of another one.
-/

namespace Crosslink.Settings

variable {α β : Type}

/-- A field is read from a value that may be missing. -/
def ReadFrom (read : Value → Except Rule α) (fallback : α) (value : Option Value) (a : α) : Prop :=
  match value with
  | some v => read v = .ok a
  | none => a = fallback

theorem readFrom_some {read : Value → Except Rule α} {fallback : α} {value : Option Value}
    {v : Value} {a : α} (hvalue : value = some v) :
    ReadFrom read fallback value a ↔ read v = .ok a := hvalue ▸ Iff.rfl

theorem ReadFrom.congr {read : Value → Except Rule α} {fallback : α} {value value' : Option Value}
    {a a' : α} (h : ReadFrom read fallback value a) (hvalue : value = value') (ha : a' = a) :
    ReadFrom read fallback value' a' := hvalue ▸ ha ▸ h

/-- A field with text has only the rule of the field. -/
theorem readFrom_text {require : String → Except Rule α} {fallback : α} {value : Option Value}
    {s : String} {a : α} (hvalue : value = some (.text s)) :
    ReadFrom (fun v => readString v >>= require) fallback value a ↔ require s = .ok a :=
  hvalue ▸ Iff.rfl

/-- What holds of every value that can be read, and of the default, holds of the field. -/
theorem ReadFrom.elim {read : Value → Except Rule α} {fallback : α} {value : Option Value} {a : α}
    {P : α → Prop} (h : ReadFrom read fallback value a) (hread : ∀ v a, read v = .ok a → P a)
    (hfallback : P fallback) : P a := by
  cases value with
  | some v => exact hread v a h
  | none => exact h ▸ hfallback

/-- The same for a field that is read as a scalar and then has a rule. -/
theorem ReadFrom.elim_bind {read : Value → Except Rule α} {require : α → Except Rule β}
    {fallback : β} {value : Option Value} {b : β} {P : β → Prop}
    (h : ReadFrom (fun v => read v >>= require) fallback value b)
    (hrequire : ∀ a b, require a = .ok b → P b) (hfallback : P fallback) : P b := by
  refine h.elim (fun v b hb => ?_) hfallback
  obtain ⟨a, -, ha⟩ := bind_eq_ok_iff.mp hb
  exact hrequire a b ha

deriving instance DecidableEq for Checked

namespace Checked

theorem map_eq_ok_iff {f : α → β} {x : Checked α} {b : β} :
    f <$> x = .ok b ↔ ∃ a, x = .ok a ∧ f a = b := by
  change apply (.ok f) x = .ok b ↔ _
  simp [apply_eq_ok_iff]

theorem seq_eq_ok_iff {f : Checked (α → β)} {x : Checked α} {b : β} :
    f <*> x = .ok b ↔ ∃ g a, f = .ok g ∧ x = .ok a ∧ g a = b := apply_eq_ok_iff

theorem andThen_eq_ok_iff {x : Checked α} {next : α → Checked β} {b : β} :
    x.andThen next = .ok b ↔ ∃ a, x = .ok a ∧ next a = .ok b := by
  cases x <;> simp [andThen]

theorem named_eq_ok_iff {name : String} {x : Except Rule α} {a : α} :
    named name x = .ok a ↔ x = .ok a := by
  cases x <;> simp [named]

theorem within_eq_ok_iff {name : String} {x : Checked α} {a : α} :
    within name x = .ok a ↔ x = .ok a := by
  cases x <;> simp [within]

theorem ruledOutBy_eq_ok_iff {vs : List Violation} {x : Checked α} {a : α} :
    x.ruledOutBy vs = .ok a ↔ x = .ok a ∧ vs = [] := by
  cases x <;> cases vs <;> simp [ruledOutBy]

theorem numbered_eq_ok_iff {position : Nat} {x : Except Rule α} {a : α} :
    numbered position x = .ok a ↔ x = .ok a := by
  cases x <;> simp [numbered]

/-- All items pass exactly if each of them does, and their values are in order. -/
theorem items_eq_ok_iff {check : α → Except Rule β} {position : Nat} {items : List α}
    {values : List β} :
    Checked.items check position items = .ok values ↔ items.mapM check = .ok values := by
  induction items generalizing position values with
  | nil =>
    constructor
    · intro h
      cases h
      rfl
    · intro h
      cases h
      rfl
  | cons item rest ih =>
    rw [Checked.items, seq_eq_ok_iff, List.mapM_cons]
    constructor
    · rintro ⟨g, others, hfirst, hrest, rfl⟩
      obtain ⟨value, hvalue, rfl⟩ := map_eq_ok_iff.mp hfirst
      rw [numbered_eq_ok_iff.mp hvalue, ih.mp hrest]
      rfl
    · intro h
      cases hvalue : check item with
      | error rule =>
        rw [hvalue] at h
        cases h
      | ok value =>
        cases hrest : rest.mapM check with
        | error rule =>
          rw [hvalue, hrest] at h
          cases h
        | ok others =>
          rw [hvalue, hrest] at h
          cases h
          exact ⟨_, _, map_eq_ok_iff.mpr ⟨value, numbered_eq_ok_iff.mpr rfl, rfl⟩,
            ih.mpr hrest, rfl⟩

end Checked

namespace Configuration

/-- The extensions of a document, without the place of what is wrong with them. -/
def extensionsOf (v : Value) : Except Rule (List String) := do
  requireExtensions (← (← readItems v).mapM readString)

theorem readExtensions_eq_ok_iff {name : String} {v : Value} {extensions : List String} :
    readExtensions name v = .ok extensions ↔ extensionsOf v = .ok extensions := by
  simp only [readExtensions, extensionsOf, Checked.andThen_eq_ok_iff, Checked.named_eq_ok_iff,
    Checked.within_eq_ok_iff, Checked.items_eq_ok_iff]
  cases readItems v with
  | error rule => simp [bind, Except.bind]
  | ok items =>
    cases hread : items.mapM readString <;> simp [bind, Except.bind, hread]

/-- Each field of the configuration is read from a mapping. -/
structure Reads (entries : List (Value × Value)) (c : Configuration) : Prop where
  contentRoot : ReadFrom (fun v => readString v >>= requireText) default.contentRoot
    (Value.lookup? "content_root" entries) c.contentRoot
  outputDir : ReadFrom (fun v => readString v >>= requireText) default.outputDir
    (Value.lookup? "output_dir" entries) c.outputDir
  repoBaseUrl : ReadFrom (fun v => readString v >>= requireAddress) default.repoBaseUrl
    (Value.lookup? "repo_base_url" entries) c.repoBaseUrl
  defaultBranch : ReadFrom (fun v => readString v >>= requireBranch) default.defaultBranch
    (Value.lookup? "default_branch" entries) c.defaultBranch
  strictMode : ReadFrom (readOptional readTruth) default.strictMode
    (Value.lookup? "strict_mode" entries) c.strictMode
  missingIdentifier : ReadFrom readPolicy default.missingIdentifier
    (Value.lookup? "missing_identifier" entries) c.missingIdentifier
  repoLinkRequiresPath : ReadFrom readTruth default.repoLinkRequiresPath
    (Value.lookup? "repo_link_requires_path" entries) c.repoLinkRequiresPath
  extensions : ReadFrom extensionsOf default.extensions
    (Value.lookup? "extensions" entries) c.extensions
  workers : ReadFrom (fun v => readInt v >>= requireWorkers) default.workers
    (Value.lookup? "workers" entries) c.workers
  logFile : ReadFrom (readOptional readString) default.logFile
    (Value.lookup? "log_file" entries) c.logFile

theorem field_eq_ok_iff {α : Type} {entries : List (Value × Value)} {name : String} {fallback a : α}
    {read : String → Value → Checked α} {readValue : Value → Except Rule α}
    (h : ∀ v, read name v = .ok a ↔ readValue v = .ok a) :
    field entries name fallback read = .ok a ↔
      ReadFrom readValue fallback (Value.lookup? name entries) a := by
  rw [field]
  cases Value.lookup? name entries with
  | some v => exact h v
  | none => simp [ReadFrom, eq_comm]

theorem field_single_eq_ok_iff {α : Type} {entries : List (Value × Value)} {name : String}
    {fallback a : α} {read : Value → Except Rule α} :
    field entries name fallback (single read) = .ok a ↔
      ReadFrom read fallback (Value.lookup? name entries) a :=
  field_eq_ok_iff fun _ => Checked.named_eq_ok_iff

/-- The fields of a mapping are read one by one. -/
theorem fieldsOf_eq_ok_iff {entries : List (Value × Value)} {c : Configuration} :
    fieldsOf entries = .ok c ↔ Reads entries c := by
  simp only [fieldsOf, Checked.seq_eq_ok_iff, Checked.map_eq_ok_iff, text, field_single_eq_ok_iff,
    field_eq_ok_iff fun _ => readExtensions_eq_ok_iff]
  constructor
  · rintro ⟨_, _, ⟨_, _, ⟨_, _, ⟨_, _, ⟨_, _, ⟨_, _, ⟨_, _, ⟨_, _, ⟨_, _, ⟨_, h₀, rfl⟩, h₁, rfl⟩,
      h₂, rfl⟩, h₃, rfl⟩, h₄, rfl⟩, h₅, rfl⟩, h₆, rfl⟩, h₇, rfl⟩, h₈, rfl⟩, h₉, rfl⟩
    exact ⟨h₀, h₁, h₂, h₃, h₄, h₅, h₆, h₇, h₈, h₉⟩
  · rintro ⟨h₀, h₁, h₂, h₃, h₄, h₅, h₆, h₇, h₈, h₉⟩
    exact ⟨_, _, ⟨_, _, ⟨_, _, ⟨_, _, ⟨_, _, ⟨_, _, ⟨_, _, ⟨_, _, ⟨_, _, ⟨_, h₀, rfl⟩, h₁, rfl⟩,
      h₂, rfl⟩, h₃, rfl⟩, h₄, rfl⟩, h₅, rfl⟩, h₆, rfl⟩, h₇, rfl⟩, h₈, rfl⟩, h₉, rfl⟩

/-- A mapping is accepted exactly if each key names a field and each field can be read. -/
theorem ofEntries_eq_ok_iff {entries : List (Value × Value)} {c : Configuration} :
    ofEntries entries = .ok c ↔ (∀ e ∈ entries, keyViolation? e.1 = none) ∧ Reads entries c := by
  rw [ofEntries, Checked.ruledOutBy_eq_ok_iff, fieldsOf_eq_ok_iff, List.filterMap_eq_nil_iff,
    and_comm]

end Configuration

end Crosslink.Settings
