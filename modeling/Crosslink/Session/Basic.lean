import Crosslink.IssueLog
import Crosslink.Log
import Crosslink.Registry
import Crosslink.Settings.MissingPolicy

/-!
# Sessions

What the phases of a build share: the registry, the issues reported so far and the log. An
action may fail, and what it did before it failed stays done.
-/

namespace Crosslink

/-- The rules by which pages are registered and links resolved. -/
structure Policy where
  contentRoot : Path
  /-- Does the first issue end the build? -/
  strict : Bool
  missingIdentifier : MissingPolicy
  repoBaseUrl : String
  defaultBranch : String
  repoLinkRequiresPath : Bool
  deriving DecidableEq, Repr

/-- The state that phases share. -/
structure Session where
  registry : Registry
  issues : IssueLog
  log : List Message
  deriving DecidableEq, Repr

/-- A change of the session that gives a value or fails. -/
abbrev Action (α : Type) := ExceptT Failure (StateM Session) α

namespace Session

/-- The session before anything is registered. -/
def empty : Session := ⟨.empty, .empty, []⟩

/-- Perform an action: its outcome and the session after it. -/
def perform {α : Type} (s : Session) (action : Action α) : Except Failure α × Session :=
  (ExceptT.run action).run s

/-- Fail for a reason that is reported. -/
def fail {α : Type} (e : Error) : Action α := throw (.error e)

/-- The value of a check, or its failure. -/
def require {α : Type} (x : Except Error α) : Action α :=
  match x with
  | .ok a => pure a
  | .error e => fail e

/-- The value of a step that may meet a fault. -/
def obtain {α : Type} (x : Except Fault α) : Action α :=
  match x with
  | .ok a => pure a
  | .error f => throw (.fault f)

/-- Write a message to the log. -/
def say (level : Level) (text : String) : Action Unit :=
  modify fun s => { s with log := s.log ++ [⟨level, text⟩] }

/-- Report an issue: it is always recorded, and it ends the build if that is strict. -/
def report (strict : Bool) (i : Issue) : Action Unit := do
  modify fun s => { s with issues := s.issues.add i }
  if strict then
    say .error i.describe
    fail (.buildAborted i)
  else say .warning i.describe

/-- Forget all issues. -/
def resetIssues : Action Unit := modify fun s => { s with issues := .empty }

/-- Open the registry for a new generation. -/
def beginGeneration : Action Nat := do
  modify fun s => { s with registry := s.registry.begin }
  return (← get).registry.generation

/-- Close the registry. -/
def freeze : Action Unit := modify fun s => { s with registry := s.registry.freeze }

/-- Change the records of the registry. -/
def changeRegistry {α : Type} (f : Registry → Except Error (α × Registry)) : Action α := do
  let (answer, registry) ← require (f (← get).registry)
  modify fun s => { s with registry }
  return answer

/-- Write a record. -/
def put (record : Record) : Action (Option Record) := changeRegistry fun r => r.put record

/-- Remove the records of a path. -/
def removePath (path : String) (keep : Option String) : Action (List String) :=
  changeRegistry fun r => r.removePath path keep

/-- Remove the records of earlier generations. -/
def prune : Action (List String) := do
  let stale ← changeRegistry Registry.prune
  if !stale.isEmpty then
    say .info ("Pruned " ++ toString stale.length ++ " stale identifier(s): "
      ++ String.intercalate ", " stale)
  return stale

end Session

end Crosslink
