/-!
# Environments

The variables that a program finds when it starts. A variable that is set is never
replaced, so files of variables only fill in what is missing.
-/

namespace Crosslink

/-- Variables in the order in which they were set. -/
structure Environment where
  entries : List (String × String)
  deriving DecidableEq, Repr

namespace Environment

/-- The value of a variable. -/
def get? (env : Environment) (name : String) : Option String :=
  (env.entries.find? fun v => v.1 == name).map (·.2)

/-- Is the variable set? -/
def has (env : Environment) (name : String) : Bool := env.entries.any fun v => v.1 == name

/-- Set a variable unless it is set already. -/
def setMissing (env : Environment) (name value : String) : Environment :=
  if env.has name then env else ⟨env.entries ++ [(name, value)]⟩

/-- Set those variables that are missing, in order. -/
def extend (env : Environment) (more : List (String × String)) : Environment :=
  more.foldl (fun e v => e.setMissing v.1 v.2) env

theorem has_iff_get? (env : Environment) (name : String) :
    env.has name = (env.get? name).isSome := by
  cases env with
  | mk vs =>
    unfold has get?
    induction vs with
    | nil => rfl
    | cons v rest ih =>
      by_cases h : v.1 == name
      · simp [h]
      · simpa [h] using ih

/-- A variable that is set keeps its value. -/
theorem get?_setMissing_of_has {env : Environment} {name : String} (h : env.has name = true)
    (other value : String) : (env.setMissing other value).get? name = env.get? name := by
  unfold setMissing
  split
  · rfl
  · obtain ⟨x, hx⟩ := Option.isSome_iff_exists.mp (has_iff_get? env name ▸ h)
    have hf : (env.entries.find? fun v => v.1 == name).isSome := by
      simpa [get?] using congrArg Option.isSome hx
    simp only [get?, List.find?_append]
    rw [Option.or_of_isSome hf]

end Environment

end Crosslink
