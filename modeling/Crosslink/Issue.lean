import Crosslink.Path
import Crosslink.Value

/-!
# Issues

A problem with one link or one page, found while identifiers are registered or links are
resolved. An issue says what kind of problem it is and where it stands.
-/

namespace Crosslink

/-- The kinds of problems. -/
inductive IssueKind where
  | missingReference
  | duplicateIdentifier
  | selfReference
  | missingRepoPath
  | missingIdentifier
  deriving DecidableEq, Repr

namespace IssueKind

/-- All kinds. -/
def all : List IssueKind :=
  [.missingReference, .duplicateIdentifier, .selfReference, .missingRepoPath, .missingIdentifier]

/-- The name of a kind in reports. -/
def text : IssueKind → String
  | .missingReference => "missing_reference"
  | .duplicateIdentifier => "duplicate_identifier"
  | .selfReference => "self_reference"
  | .missingRepoPath => "missing_repo_path"
  | .missingIdentifier => "missing_identifier"

/-- The kind with a given name. -/
def ofText? (s : String) : Option IssueKind := all.find? fun k => k.text == s

theorem mem_all (k : IssueKind) : k ∈ all := by cases k <;> decide

/-- Every kind is read back from its name. -/
theorem ofText?_text (k : IssueKind) : ofText? k.text = some k := by cases k <;> decide

end IssueKind

/-- A problem with one link or one page. -/
structure Issue where
  kind : IssueKind
  message : String
  /-- The page that holds the link or the declaration. -/
  sourceFile : Path
  line : Option Int
  column : Option Int
  /-- The link target or the identifier in question. -/
  target : Option String
  /-- Another page that takes part, such as the earlier one of two declarations. -/
  relatedFile : Option Path
  deriving DecidableEq, Repr

namespace Issue

/-- An issue with a page as a whole. -/
def ofPage (kind : IssueKind) (message : String) (sourceFile : Path) : Issue :=
  ⟨kind, message, sourceFile, none, none, none, none⟩

/-- Where the issue stands: the page, and line and column as far as they are known. -/
def location (i : Issue) : String :=
  i.sourceFile.toString ++
    (match i.line, i.column with
    | none, _ => ""
    | some l, none => ":" ++ toString l
    | some l, some c => ":" ++ toString l ++ ":" ++ toString c)

/-- Location and message in one line. -/
def describe (i : Issue) : String := i.location ++ ": " ++ i.message

end Issue

end Crosslink
