import Crosslink.Settings.Violation

/-!
# Checked values

A value or everything that is wrong with it. Two checks that are joined report the
violations of both, those of the first one before those of the second; a check that needs
the value of another one is made only if there is one.
-/

namespace Crosslink.Settings

/-- A value, or the violations that stand in its way. -/
inductive Checked (α : Type) where
  | ok (a : α)
  | refused (violations : List Violation)
  deriving Repr

namespace Checked

/-- The violations of a check. -/
def violations {α : Type} : Checked α → List Violation
  | .ok _ => []
  | .refused vs => vs

/-- Apply a checked function to a checked value. -/
def apply {α β : Type} (f : Checked (α → β)) (x : Checked α) : Checked β :=
  match f, x with
  | .ok f, .ok a => .ok (f a)
  | f, x => .refused (f.violations ++ x.violations)

instance : Applicative Checked where
  pure := .ok
  seq f x := f.apply (x ())

/-- A check of the value of another one. -/
def andThen {α β : Type} (x : Checked α) (next : α → Checked β) : Checked β :=
  match x with
  | .ok a => next a
  | .refused vs => .refused vs

/-- A checked value that further violations may rule out. -/
def ruledOutBy {α : Type} (vs : List Violation) (x : Checked α) : Checked α :=
  match x, vs with
  | .ok a, [] => .ok a
  | x, vs => .refused (x.violations ++ vs)

/-- The check of one value under a name. -/
def named {α : Type} (name : String) (x : Except Rule α) : Checked α :=
  match x with
  | .ok a => .ok a
  | .error rule => .refused [.ofField name rule]

/-- The check of one item of a sequence. -/
def numbered {α : Type} (position : Nat) (x : Except Rule α) : Checked α :=
  match x with
  | .ok a => .ok a
  | .error rule => .refused [⟨[.index position], rule⟩]

/-- The same check seen from outside a named field. -/
def within {α : Type} (name : String) (x : Checked α) : Checked α :=
  match x with
  | .ok a => .ok a
  | .refused vs => .refused (vs.map (·.within name))

/-- Check every item of a list, the first one at a given position. -/
def items {α β : Type} (check : α → Except Rule β) : (position : Nat) → List α → Checked (List β)
  | _, [] => pure []
  | position, a :: rest =>
    (· :: ·) <$> numbered position (check a) <*> items check (position + 1) rest

/-- Joined checks succeed exactly when both do. -/
theorem apply_eq_ok_iff {α β : Type} {f : Checked (α → β)} {x : Checked α} {b : β} :
    f.apply x = .ok b ↔ ∃ g a, f = .ok g ∧ x = .ok a ∧ g a = b := by
  cases f <;> cases x <;> simp [apply]

/-- Joined checks report the violations of both in order. -/
theorem violations_apply {α β : Type} (f : Checked (α → β)) (x : Checked α) :
    (f.apply x).violations = f.violations ++ x.violations := by
  cases f <;> cases x <;> simp [apply, violations]

end Checked

end Crosslink.Settings
