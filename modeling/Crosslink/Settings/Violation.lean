/-!
# Violations

What is wrong with a value of the settings: a rule and the place of the value. Rules that
a field adds to its type carry a wording, except where the wording lists a set.
-/

namespace Crosslink.Settings

/-- A step of the place of a value. -/
inductive Step where
  | name (s : String)
  | index (n : Int)
  deriving DecidableEq, Repr

/-- The text of a step. -/
def Step.text : Step → String
  | .name s => s
  | .index n => toString n

/-- A rule that a value breaks. -/
inductive Rule where
  | stringType
  | stringUnicode
  | boolType
  | boolParsing
  | choice
  | listType
  | intType
  | intParsing
  | intParsingSize
  | intFromFloat
  | finiteNumber
  | tooSmall
  | tooLarge
  | unknownKey
  | invalidKey
  | mappingType
  | fieldRule (message : Option String)
  deriving DecidableEq, Repr

/-- The name of a rule in answers. -/
def Rule.text : Rule → String
  | .stringType => "string_type"
  | .stringUnicode => "string_unicode"
  | .boolType => "bool_type"
  | .boolParsing => "bool_parsing"
  | .choice => "enum"
  | .listType => "list_type"
  | .intType => "int_type"
  | .intParsing => "int_parsing"
  | .intParsingSize => "int_parsing_size"
  | .intFromFloat => "int_from_float"
  | .finiteNumber => "finite_number"
  | .tooSmall => "greater_than_equal"
  | .tooLarge => "less_than_equal"
  | .unknownKey => "extra_forbidden"
  | .invalidKey => "invalid_key"
  | .mappingType => "model_type"
  | .fieldRule _ => "value_error"

/-- A broken rule and where. -/
structure Violation where
  place : List Step
  rule : Rule
  deriving DecidableEq, Repr

/-- The wording of a field's own rule. -/
def Violation.message? (v : Violation) : Option String :=
  match v.rule with
  | .fieldRule (some m) => some ("Value error, " ++ m)
  | _ => none

/-- A violation of a named field. -/
def Violation.ofField (name : String) (rule : Rule) : Violation := ⟨[.name name], rule⟩

/-- The same violation seen from outside a named field. -/
def Violation.within (name : String) (v : Violation) : Violation :=
  { v with place := .name name :: v.place }

/-- The dotted place of the first violation, if it has one. -/
def firstPlace? (vs : List Violation) : Option String :=
  match vs with
  | [] => none
  | v :: _ =>
    let text := String.intercalate "." (v.place.map Step.text)
    if text == "" then none else some text

end Crosslink.Settings
