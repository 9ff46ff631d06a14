/-!
# Values or errors

When a sequence, or a value whose errors are renamed, has a given value, and when it fails with a
given error.
-/

namespace Crosslink

variable {ε ε' α β : Type} {x : Except ε α}

/-- A sequence succeeds exactly if its parts do. -/
theorem bind_eq_ok_iff {f : α → Except ε β} {b : β} :
    (x >>= f) = .ok b ↔ ∃ a, x = .ok a ∧ f a = .ok b := by
  cases x <;> simp [bind, Except.bind]

/-- A sequence fails with its first part or after it. -/
theorem bind_eq_error_iff {f : α → Except ε β} {e : ε} :
    (x >>= f) = .error e ↔ x = .error e ∨ ∃ a, x = .ok a ∧ f a = .error e := by
  cases x <;> simp [bind, Except.bind]

theorem mapError_eq_ok_iff {rename : ε → ε'} {a : α} :
    x.mapError rename = .ok a ↔ x = .ok a := by
  cases x with
  | error e => exact ⟨nofun, nofun⟩
  | ok b => constructor <;> rintro ⟨⟩ <;> rfl

/-- Renaming errors neither hides nor adds one. -/
theorem mapError_eq_error_iff {rename : ε → ε'} {e : ε'} :
    x.mapError rename = .error e ↔ ∃ f, x = .error f ∧ e = rename f := by
  cases x with
  | ok a => exact ⟨nofun, fun ⟨_, h, _⟩ => nomatch h⟩
  | error f =>
    constructor
    · exact fun h => ⟨f, rfl, (Except.error.inj h).symm⟩
    · rintro ⟨_, h, rfl⟩
      cases h
      rfl

end Crosslink
