/-!
# Faults of YAML documents

Most texts without a value are malformed. Text under an explicit tag and characters named by
number can fail in ways of their own, and those are told apart.
-/

namespace Crosslink.Yaml

/-- Why a text has no value. -/
inductive Fault where
  /-- The text is no document, or a node does not fit its tag. -/
  | malformed
  /-- A number, a date or a character that does not exist. -/
  | impossible
  /-- A number without characters. -/
  | emptyNumber
  /-- A word that is no truth value. -/
  | noTruth
  /-- Text that is no timestamp. -/
  | noTimestamp
  /-- A timestamp that is no text. -/
  | notText
  /-- A number too large for its type. -/
  | overflow
  /-- Nodes that hold one another without an end, or too deeply. -/
  | tooDeep
  deriving DecidableEq, Repr

end Crosslink.Yaml
