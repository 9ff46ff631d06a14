import Crosslink.Build.Discovery
import Crosslink.Build.Loading
import Crosslink.Json.Writer
import Crosslink.Session.Registration
import Crosslink.Session.Resolution
import Crosslink.Settings.Basic

/-!
# Builds

A build loads pages, registers all of them, freezes the registry, resolves all links and
may write the pages. Another build on the same workspace starts a new generation, and
identifiers of pages that are gone are pruned.
-/

namespace Crosslink

/-- The rules that settings lay down for registration and resolution. -/
def Settings.policy (s : Settings) : Policy where
  contentRoot := s.contentRoot
  strict := s.strict
  missingIdentifier := s.missingIdentifier
  repoBaseUrl := s.repoBaseUrl
  defaultBranch := s.defaultBranch
  repoLinkRequiresPath := s.repoLinkRequiresPath

/-- The files and the session that builds work on. -/
structure Workspace where
  tree : FileTree
  session : Session
  deriving DecidableEq, Repr

/-- A change of the workspace that gives a value or fails. -/
abbrev Job (α : Type) := ExceptT Failure (StateM Workspace) α

namespace Workspace

/-- Perform a job: its outcome and the workspace after it. -/
def perform {α : Type} (w : Workspace) (job : Job α) : Except Failure α × Workspace :=
  (ExceptT.run job).run w

end Workspace

/-- The outcome of a build. -/
structure BuildResult where
  pages : List Page
  reports : List PageReport
  failed : List (Path × Error)
  written : List Path
  issues : List Issue
  deriving Repr

namespace BuildResult

/-- The number of links that were rewritten. -/
def rewritten (r : BuildResult) : Nat := r.reports.foldl (fun n p => n + p.rewritten) 0

/-- Did the build meet no problem? -/
def ok (r : BuildResult) : Bool := r.issues.isEmpty && r.failed.isEmpty

end BuildResult

/-- An issue as a document. -/
def Issue.toJson (i : Issue) : Json := .object [
  ("kind", .string i.kind.text),
  ("message", .string i.message),
  ("source_file", .string i.sourceFile.toString),
  ("line", .ofInt? i.line),
  ("column", .ofInt? i.column),
  ("target", .ofString? i.target),
  ("related_file", .ofString? (i.relatedFile.map Path.toString))]

/-- The outcome of a build as a document. -/
def BuildResult.toJson (r : BuildResult) : Json := .object [
  ("files", .int r.pages.length),
  ("rewritten", .int r.rewritten),
  ("written", .array (r.written.map fun p => .string p.toString)),
  ("failed", .array (r.failed.map fun f =>
    .object [("source_file", .string f.1.toString), ("error", .string f.2.message)])),
  ("issues", .array (r.issues.map Issue.toJson))]

namespace Build

/-- Perform an action on the session of the workspace. -/
def onSession {α : Type} (action : Action α) : Job α := fun w =>
  let (outcome, session) := w.session.perform action
  (outcome, { w with session })

/-- The value of a check, or its failure. -/
def require {α : Type} (x : Except Failure α) : Job α :=
  match x with
  | .ok a => pure a
  | .error f => throw f

/-- The content files of the settings. -/
def files (settings : Settings) : Job (List Path) := do
  require (discover (← get).tree settings.contentRoot settings.extensions)

/-- Pass over a file that gives no page. A strict build ends with the first one; another one
says so and goes on. -/
def skip (settings : Settings) (file : Path) (e : Error) : Job Unit := do
  if settings.strict then throw (.error e)
  onSession (Session.say .error ("Skipping " ++ file.toString ++ ": " ++ e.message))

/-- Load pages, for which there must be workers. -/
def load (settings : Settings) (paths : List Path) : Job Loaded := do
  if settings.workers = 0 then throw (.fault .noWorkers)
  let loaded ← require
    ((Loaded.ofFiles (← get).tree settings.contentRoot paths).mapError .fault)
  loaded.failed.forM fun (file, e) => skip settings file e
  return loaded

/-- Pages in the order in which they are registered: that of their paths as text. -/
def registrationOrder (pages : List Page) : List Page :=
  pages.mergeSort fun p q => !decide (q.sourceFile.toString < p.sourceFile.toString)

/-- Register pages as a new generation and freeze the registry. -/
def registerAll (policy : Policy) (pages : List Page) : Action Unit := do
  let _ ← Session.beginGeneration
  (registrationOrder pages).forM fun page =>
    Session.register policy page.metadata page.sourceFile
  let _ ← Session.prune
  Session.freeze
  Session.say .info
    ("Registered " ++ toString (← get).registry.records.length ++ " global identifier(s)")

/-- Resolve the links of all pages in order. -/
def resolveAll (policy : Policy) : List Page → Action (List (Page × PageReport))
  | [] => return []
  | page :: rest => do
    let (links, report) ← Session.resolvePage policy page.sourceFile page.links
    let others ← resolveAll policy rest
    return ({ page with links }, report) :: others

/-- Write a page below a directory; the answer is the file it is written to. -/
def writePage (directory : Path) (page : Page) : Job Path := do
  let target := directory.join page.relativePath
  let (tree, outcome) := (← get).tree.plant target (Text.Utf8.encode page.render)
  modify fun w => { w with tree }
  require (outcome.mapError fun f => .fault (.files f))
  return target

/-- Load the pages of a build, register them and let an action resolve their links. -/
def prepare (resolve : List Page → Action (List (Page × PageReport))) (settings : Settings)
    (paths : List Path) : Job (Loaded × List (Page × PageReport)) := do
  onSession (Session.say .info ("Building " ++ toString paths.length
    ++ " content file(s) from " ++ settings.contentRoot.toString))
  onSession Session.resetIssues
  let loaded ← load settings paths
  onSession (registerAll settings.policy loaded.pages)
  let resolved ← onSession (resolve loaded.pages)
  return (loaded, resolved)

/-- Write resolved pages, if they are wanted as files, and sum the build up. -/
def publish (settings : Settings) (write : Bool) (loaded : Loaded)
    (resolved : List (Page × PageReport)) : Job BuildResult := do
  let pages := resolved.map (·.1)
  let written ← if write then pages.mapM (writePage settings.outputDir) else pure []
  if write then
    onSession (Session.say .info ("Wrote " ++ toString written.length ++ " file(s) to "
      ++ settings.outputDir.toString))
  let result : BuildResult := {
    pages
    reports := resolved.map (·.2)
    failed := loaded.failed
    written
    issues := (← get).session.issues.issues }
  onSession (Session.say .info ("Rewrote " ++ toString result.rewritten ++ " link(s), "
    ++ toString result.issues.length ++ " issue(s)"))
  return result

/-- Build from given files, or from all content files, and let an action resolve the links. -/
def runWith (resolve : List Page → Action (List (Page × PageReport))) (settings : Settings)
    (paths : Option (List Path)) (write : Bool) : Job BuildResult := do
  let paths ← match paths with
    | some ps => pure ps
    | none => files settings
  let (loaded, resolved) ← prepare resolve settings paths
  publish settings write loaded resolved

/-- Build from given files, or from all content files, one page after the other. -/
def run (settings : Settings) : (paths : Option (List Path)) → (write : Bool) → Job BuildResult :=
  runWith (resolveAll settings.policy) settings

/-- Load and register all content files without resolving links. -/
def registerOnly (settings : Settings) : Job Loaded := do
  let loaded ← load settings (← files settings)
  onSession (registerAll settings.policy loaded.pages)
  return loaded

/-- Load all content files and resolve their links against the registry as it is. -/
def resolveOnly (settings : Settings) : Job (List PageReport) := do
  let loaded ← load settings (← files settings)
  let resolved ← onSession (resolveAll settings.policy loaded.pages)
  return resolved.map (·.2)

end Build

end Crosslink
