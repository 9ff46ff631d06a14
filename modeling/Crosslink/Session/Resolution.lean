import Crosslink.Link.Basic
import Crosslink.Link.Target
import Crosslink.Session.Basic
import Crosslink.Text.Quoted

/-!
# Resolution

The second phase: links to identifiers and to the repository get the targets that they
stand for. What becomes of a link depends on the frozen registry alone; a link that cannot
be resolved keeps its target, is made inert, and causes one issue.
-/

namespace Crosslink

/-- What becomes of a link. -/
inductive Outcome where
  /-- The link does not concern this program. -/
  | kept
  | rewritten (link : Link)
  | refused (link : Link) (issue : Issue)
  deriving DecidableEq, Repr

namespace Outcome

/-- The link after the outcome. -/
def link (before : Link) : Outcome → Link
  | .kept => before
  | .rewritten l => l
  | .refused l _ => l

/-- Has the link got a new target? -/
def isRewritten : Outcome → Bool
  | .rewritten _ => true
  | _ => false

end Outcome

namespace Policy

/-- The address of a path in the repository, or of its root. -/
def urlFor (policy : Policy) (path : Option String) : String :=
  let base := Text.stripEnd '/' policy.repoBaseUrl
  match path with
  | none => base
  | some path => base ++ "/tree/" ++ Text.strip '/' policy.defaultBranch ++ "/" ++ path

end Policy

namespace Resolution

/-- A link that cannot be resolved, with the issue that says why. -/
def refuse (kind : IssueKind) (message : String) (sourceFile : Path) (l : Link) : Outcome :=
  .refused { l with inert := true } {
    kind, message, sourceFile
    line := l.origin.line
    column := l.origin.column
    target := some l.origin.url
    relatedFile := none }

/-- The title that a link takes on from the page it leads to, if it has none. -/
def adoptTitle (own declared : Option String) : Option String :=
  if own.getD "" == "" && declared.getD "" != "" then declared else own

/-- A target with an anchor, unless that is empty. -/
def withAnchor (path : String) (anchor : Option String) : String :=
  match anchor with
  | none | some "" => path
  | some anchor => path ++ "#" ++ anchor

/-- Resolve a link to an identifier, given its record. -/
def ofRecord (record : Option Record) (identifier : String) (anchor : Option String)
    (sourceFile : Path) (l : Link) : Outcome :=
  match record with
  | none =>
    refuse .missingReference ("No document declares globalReference " ++ Text.quoted identifier)
      sourceFile l
  | some r =>
    if r.sourceFile = sourceFile then
      refuse .selfReference ("Document links to itself through ref:" ++ identifier) sourceFile l
    else
      .rewritten { l with
        url := withAnchor r.canonicalPath anchor
        title := adoptTitle l.title r.title }

/-- Resolve a link to the repository. -/
def ofRepository (policy : Policy) (path : Option String) (sourceFile : Path) (l : Link) :
    Outcome :=
  if path.isNone && policy.repoLinkRequiresPath then
    refuse .missingRepoPath "Repository link has no path (expected repo:<path>)" sourceFile l
  else .rewritten { l with url := policy.urlFor path }

/-- What becomes of a link with a given target; an identifier needs a frozen registry. -/
def ofTarget (policy : Policy) (registry : Registry) (target : Target) (sourceFile : Path)
    (l : Link) : Except Error Outcome :=
  match target with
  | .plain _ => .ok .kept
  | .repository path => .ok (ofRepository policy path sourceFile l)
  | .reference identifier anchor =>
    (registry.lookup identifier).map fun r => ofRecord r identifier anchor sourceFile l

end Resolution

/-- The outcome for one page: its issues and the number of links that were rewritten. -/
structure PageReport where
  sourceFile : Path
  issues : List Issue
  rewritten : Nat
  deriving DecidableEq, Repr

/-- Has the page no issues? -/
def PageReport.ok (r : PageReport) : Bool := r.issues.isEmpty

namespace Session

/-- Resolve a link with a given target and report its issue. -/
def resolveTarget (policy : Policy) (target : Target) (sourceFile : Path) (l : Link) :
    Action Outcome := do
  let outcome ← require (Resolution.ofTarget policy (← get).registry target sourceFile l)
  match outcome with
  | .refused _ i => report policy.strict i
  | _ => pure ()
  return outcome

/-- Resolve links in order: what has become of them, and how many were rewritten. -/
def resolveLinks (policy : Policy) (sourceFile : Path) : List Link → Action (List Link × Nat)
  | [] => return ([], 0)
  | l :: rest => do
    let outcome ← resolveTarget policy (Target.ofString l.url) sourceFile l
    let (links, count) ← resolveLinks policy sourceFile rest
    return (outcome.link l :: links, if outcome.isRewritten then count + 1 else count)

/-- Resolve the links of a page; its report holds all issues of the page so far. -/
def resolvePage (policy : Policy) (sourceFile : Path) (links : List Link) :
    Action (List Link × PageReport) := do
  let (links, rewritten) ← resolveLinks policy sourceFile links
  return (links, ⟨sourceFile, (← get).issues.forFile sourceFile, rewritten⟩)

end Session

end Crosslink
