import Crosslink.Page.Identity
import Crosslink.Page.Location
import Crosslink.Session.Basic

/-!
# Registration

The first phase: each page registers the identifier it declares under its canonical path.
A page has at most one identifier, and of several pages that declare one identifier the
last one keeps it, after an issue has been reported.
-/

namespace Crosslink.Session

/-- Register a page that declares no identifier; one that it declared before is removed. -/
def registerUndeclared (policy : Policy) (sourceFile : Path) (path : String) : Action Unit := do
  let stale ← removePath path none
  stale.forM fun identifier =>
    say .info ("Identifier " ++ identifier ++ " no longer declared by " ++ sourceFile.toString)
  match policy.missingIdentifier with
  | .ignore => return
  | .warn => say .warning (sourceFile.toString ++ " declares no globalReference")
  | .error =>
    report policy.strict
      (Issue.ofPage .missingIdentifier "File declares no globalReference" sourceFile)

/-- The issue of a second declaration. -/
def duplicateIssue (identifier : String) (sourceFile : Path) (existing : Record) : Issue where
  kind := .duplicateIdentifier
  message := "Identifier " ++ Text.quoted identifier ++ " is already declared by "
    ++ existing.sourceFile.toString ++ " (" ++ existing.canonicalPath ++ ")"
  sourceFile := sourceFile
  line := none
  column := none
  target := some identifier
  relatedFile := some existing.sourceFile

/-- Compare a declaration with the record that its identifier has at another path. -/
def announceMove (policy : Policy) (identifier path : String) (sourceFile : Path) :
    Action Unit := do
  let registry := (← get).registry
  match registry.get? identifier with
  | none => return
  | some existing =>
    if existing.canonicalPath == path then return
    else if existing.generation == registry.generation then
      report policy.strict (duplicateIssue identifier sourceFile existing)
    else
      say .info ("Identifier " ++ identifier ++ " moved from " ++ existing.canonicalPath
        ++ " to " ++ path)

/-- Register a page that declares an identifier. -/
def registerDeclared (policy : Policy) (identifier path : String) (sourceFile : Path)
    (title : Option String) : Action Unit := do
  announceMove policy identifier path sourceFile
  let _ ← removePath path (some identifier)
  let _ ← put ⟨identifier, path, sourceFile, title, 0⟩

/-- Register a page by its metadata and its location. -/
def register (policy : Policy) (metadata : Fields) (location : Path) : Action Unit := do
  let path ← require (Location.canonical policy.contentRoot location)
  match ← obtain (declaredIdentifier metadata) with
  | none => registerUndeclared policy location path
  | some identifier =>
    registerDeclared policy identifier path location (← obtain (declaredTitle metadata))

end Crosslink.Session
