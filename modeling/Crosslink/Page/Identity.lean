import Crosslink.Error
import Crosslink.Text.Blank
import Crosslink.Value.Text

/-!
# Identities

A page may declare a global identifier in its metadata, under which other pages can refer
to it, and a title that such references take on.
-/

namespace Crosslink

/-- The field that declares an identifier. -/
def identifierField : String := "globalReference"

/-- The field that declares a title. -/
def titleField : String := "title"

/-- The text of a value that says who a page is. -/
def identityText (v : Value) : Except Fault String :=
  if Value.displayDepth < v.depth then .error .tooDeep
  else if v.hasLongNumber then .error .impossibleValue
  else .ok v.plainText

/-- The text of a field of metadata, if it has a value. -/
def fieldText (name : String) (metadata : Fields) : Except Fault (Option String) :=
  match metadata.get? name with
  | none | some .null => .ok none
  | some v => some <$> identityText v

/-- The identifier that metadata declares: the text of the field without blanks around it,
unless nothing is left. -/
def declaredIdentifier (metadata : Fields) : Except Fault (Option String) := do
  let text ← fieldText identifierField metadata
  return (text.map Text.trimString).filter (· != "")

/-- The title that metadata declares, as text. -/
def declaredTitle (metadata : Fields) : Except Fault (Option String) :=
  fieldText titleField metadata

end Crosslink
