/-!
# Pages without an identifier

What to do with a page that declares no global identifier.
-/

namespace Crosslink

/-- Say nothing, warn, or report an issue. -/
inductive MissingPolicy where
  | ignore
  | warn
  | error
  deriving DecidableEq, Repr

namespace MissingPolicy

/-- All policies. -/
def all : List MissingPolicy := [.ignore, .warn, .error]

/-- The name of a policy in settings. -/
def text : MissingPolicy → String
  | .ignore => "ignore"
  | .warn => "warn"
  | .error => "error"

/-- The policy with a given name. -/
def ofText? (s : String) : Option MissingPolicy := all.find? fun p => p.text == s

/-- Every policy is read back from its name. -/
theorem ofText?_text (p : MissingPolicy) : ofText? p.text = some p := by cases p <;> decide

end MissingPolicy

end Crosslink
