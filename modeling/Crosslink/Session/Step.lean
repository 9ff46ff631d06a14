import Crosslink.Session.Registration
import Crosslink.Session.Resolution

/-!
# Steps of a session

The operations on a session as data, so that every history of a session is a list.
-/

namespace Crosslink.Session

/-- One operation. -/
inductive Step where
  | begin
  | freeze
  | prune
  | register (metadata : Fields) (location : Path)
  | put (record : Record)
  | removePath (path : String) (keep : Option String)
  | get (identifier : String)
  | lookup (identifier : String)
  | contains (identifier : String)
  | resolve (target : Target) (sourceFile : Path) (link : Link)
  | urlFor (path : Option String)
  | resolveLinks (sourceFile : Path) (links : List Link)
  | report (issue : Issue)
  | issuesFor (sourceFile : Path)
  | reset
  | summary
  deriving Repr

/-- What an operation answers. -/
inductive Answer where
  | nothing
  | generation (n : Nat)
  | identifiers (names : List String)
  | metadata (fields : Fields)
  | record (r : Option Record)
  | flag (b : Bool)
  | text (s : String)
  | resolved (rewritten : Bool) (link : Link)
  | page (report : PageReport) (links : List Link)
  | issues (is : List Issue)
  | summary (strict : Bool) (log : IssueLog)
  deriving Repr

/-- The action of an operation. -/
def Step.action (policy : Policy) : Step → Action Answer
  | .begin => .generation <$> beginGeneration
  | .freeze => do
    Session.freeze
    return .nothing
  | .prune => .identifiers <$> Session.prune
  | .register metadata location => do
    Session.register policy metadata location
    return .metadata metadata
  | .put record => .record <$> Session.put record
  | .removePath path keep => .identifiers <$> Session.removePath path keep
  | .get identifier => return .record ((← MonadState.get).registry.get? identifier)
  | .lookup identifier => do
    return .record (← require ((← MonadState.get).registry.lookup identifier))
  | .contains identifier => return .flag ((← MonadState.get).registry.contains identifier)
  | .resolve target sourceFile link => do
    let outcome ← resolveTarget policy target sourceFile link
    return .resolved outcome.isRewritten (outcome.link link)
  | .urlFor path => return .text (policy.urlFor path)
  | .resolveLinks sourceFile links => do
    let (links, pageReport) ← resolvePage policy sourceFile links
    return .page pageReport links
  | .report issue => do
    Session.report policy.strict issue
    return .nothing
  | .issuesFor sourceFile => return .issues ((← MonadState.get).issues.forFile sourceFile)
  | .reset => do
    resetIssues
    return .nothing
  | .summary => return .summary policy.strict (← MonadState.get).issues

/-- Perform an operation on a session whose log is cleared first. -/
def step (policy : Policy) (s : Session) (st : Step) : Except Failure Answer × Session :=
  perform { s with log := [] } (st.action policy)

/-- Perform operations one after the other, whether or not earlier ones fail. -/
def run (policy : Policy) (s : Session) : List Step → Session
  | [] => s
  | st :: rest => run policy (step policy s st).2 rest

end Crosslink.Session
