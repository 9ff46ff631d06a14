import Crosslink.CommandLine.Usage
import Crosslink.Console.Report
import Crosslink.Log.Setup
import Crosslink.Settings.Load

/-!
# Running commands

A command line runs on an environment and the files of the working directory, and ends with
an exit code, the lines that it printed and the files as they are then. Logging is set up
before the arguments of the command are looked at.
-/

namespace Crosslink.CommandLine

/-- What a run works on and what it has printed. -/
structure Run where
  environment : Environment
  workspace : Workspace
  /-- The least weight of messages that are shown. -/
  threshold : Nat
  output : List String
  errors : List String
  deriving Repr

/-- How a run ends before its last line. -/
inductive Stop where
  | exit (code : Nat)
  | fault (f : Fault)
  deriving DecidableEq, Repr

/-- A part of a run. -/
abbrev Part (α : Type) := ExceptT Stop (StateM Run) α

/-- Print lines. -/
def print (lines : List String) : Part Unit :=
  modify fun r => { r with output := r.output ++ lines }

/-- Print lines of trouble. -/
def complain (lines : List String) : Part Unit :=
  modify fun r => { r with errors := r.errors ++ lines }

/-- Change the files. -/
def changeTree {α : Type} (change : FileTree → FileTree × Except Fault α) : Part α := fun r =>
  let (tree, outcome) := change r.workspace.tree
  (outcome.mapError .fault, { r with workspace := { r.workspace with tree } })

/-- Perform a job; what it says in the log is shown as far as the threshold lets it. -/
def performJob {α : Type} (job : Job α) : Part (Except Failure α) := fun r =>
  let (outcome, workspace) := r.workspace.perform job
  let said := workspace.session.log.filter fun m => r.threshold ≤ m.level.number
  let session := { workspace.session with log := [] }
  (.ok outcome, { r with
    workspace := { workspace with session }
    errors := r.errors ++ said.flatMap Console.logLines })

/-- The level of the log that the environment asks for, unless its settings are not valid. -/
def requestedLevel : Part (Option Level) := do
  let r ← get
  match Settings.Variables.ofEnvironment r.environment r.workspace.tree with
  | .ok v => return some v.level
  | .error (.invalid _) | .error .unreadableVariable => return none
  | .error f => throw (.fault f)

/-- Load the settings. -/
def loadSettings (file : Path) : Part (Except Error Settings) := do
  let r ← get
  let (environment, loaded) := Settings.load r.environment r.workspace.tree file none []
  set { r with environment }
  match loaded with
  | .ok settings => return .ok settings
  | .error (.error e) => return .error e
  | .error (.fault f) => throw (.fault f)

/-- The log file that is wanted: that of the settings, or one of the user's on request. -/
def logFile? (options : ProgramOptions) (settings : Except Error Settings) :
    Part (Option Path) := do
  let named := settings.toOption.bind (·.logFile)
  if named.isSome || !options.log then return named
  let environment := (← get).environment
  let directory ← changeTree (Log.ensureDirectory environment)
  return some (Log.defaultFile directory)

/-- Set up logging: the threshold of the console and the log file. -/
def setUpLogging (options : ProgramOptions) (level : Option Level)
    (settings : Except Error Settings) : Part Unit := do
  match ← logFile? options settings with
  | none => pure ()
  | some file => changeTree fun tree =>
      let (tree, opened) := Log.openFile tree file
      (tree, opened.mapError .files)
  modify fun r => { r with threshold := consoleThreshold options.verbose (level.map Level.text) }

/-- The settings with what the arguments of the command ask for. -/
def applyOptions (o : CommandOptions) (s : Settings) : Settings :=
  { s with
    contentRoot := o.contentRoot.getD s.contentRoot
    outputDir := o.out.getD s.outputDir
    strict := o.strict.getD s.strict }

/-- The settings of a command, or the end of the run. -/
def requireSettings (file : Path) (settings : Except Error Settings) (o : CommandOptions) :
    Part Settings := do
  match settings with
  | .ok s => return applyOptions o s
  | .error e =>
    complain (Console.fatal e.message ("Check " ++ file.toString))
    throw (.exit 2)

/-- The value of a job; an error is shown in a panel and ends the run. -/
def requireJob {α : Type} (job : Job α) : Part α := do
  match ← performJob job with
  | .ok a => return a
  | .error (.fault f) => throw (.fault f)
  | .error (.error e) =>
    complain (Console.errorPanel e)
    throw (.exit 1)

/-- Build, after saying from where and how. -/
def runBuild (settings : Settings) (write : Bool) : Part BuildResult := do
  let mode := if settings.strict then "strict" else "permissive"
  print (Console.info ("Content root: " ++ settings.contentRoot.toString ++ " (" ++ mode
    ++ " mode)"))
  requireJob (Build.run settings none write)

/-- Write the outcome of a build as a document. -/
def writeReport (result : BuildResult) (file : Path) : Part Unit := do
  let text := Json.render true result.toJson ++ "\n"
  changeTree fun tree =>
    let (tree, outcome) := tree.plant file (Text.Utf8.encode text.toList)
    (tree, outcome.mapError .files)
  print (Console.info ("Report written to " ++ file.toString))

/-- Show the outcome of a build. -/
def showResult (result : BuildResult) (wrote : Bool) (report : Option Path) : Part Unit := do
  print (Console.summary result wrote)
  complain (Console.issueTable result.issues)
  match report with
  | some file => writeReport result file
  | none => pure ()

/-- Resolve all links and write the pages. -/
def build (settings : Settings) (o : CommandOptions) : Part Unit := do
  let result ← runBuild settings true
  showResult result true o.report
  if result.ok then
    print (Console.success ("Wrote " ++ toString result.written.length ++ " file(s) to "
      ++ settings.outputDir.toString))
  else
    print (Console.warning "Build finished with issues; unresolved tokens were left inert")

/-- Resolve all links without writing anything. -/
def check (settings : Settings) (o : CommandOptions) : Part Unit := do
  let result ← runBuild settings false
  showResult result false o.report
  if !result.ok then throw (.exit 1)
  print (Console.success ("All " ++ toString result.rewritten ++ " link token(s) resolved"))

/-- List the registry. -/
def refs (settings : Settings) (o : CommandOptions) : Part Unit := do
  if !o.json then print (Console.step 1 1 "Registering identities")
  let _ ← requireJob (Build.registerOnly settings)
  let records := (← get).workspace.session.registry.sorted
  print (if o.json then Console.registryJson records else Console.registryTable records)

/-- The text of the version. -/
def versionText : String := "docref 0.1.0"

/-- What each command does. -/
def Command.run (c : Command) (settings : Settings) (o : CommandOptions) : Part Unit :=
  match c with
  | .build => CommandLine.build settings o
  | .check => CommandLine.check settings o
  | .refs => CommandLine.refs settings o

/-- Run a command with its arguments. -/
def runCommand (options : ProgramOptions) (c : Command) (args : List String) : Part Unit := do
  let file := options.config.getD Settings.defaultFile
  let level ← requestedLevel
  let settings ← loadSettings file
  setUpLogging options level settings
  match CommandRequest.ofArguments c args with
  | .refused =>
    complain c.usage
    throw (.exit 2)
  | .help => print c.usage
  | .run o => c.run (← requireSettings file settings o) o

/-- Run a command line. -/
def program (args : List String) : Part Unit :=
  match Request.ofArguments args with
  | .refused => do
    complain usage
    throw (.exit 2)
  | .help => print usage
  | .version => print [versionText]
  | .command options c rest => runCommand options c rest

/-- How a run has ended. -/
structure Ending where
  code : Nat
  /-- The fault that ended the run, if one did. -/
  fault : Option Fault
  run : Run
  deriving Repr

/-- The files of a tree that are new or different from those of another one. -/
def changedFiles (before after : FileTree) : List (List String × List UInt8) :=
  (after.filesBelow []).filter fun f => before.find? f.1 != some (.file f.2)

/-- Run a command line on an environment and the files of the working directory. -/
def execute (args : List String) (environment : Environment) (tree : FileTree) : Ending :=
  let start : Run := {
    environment
    workspace := ⟨tree, .empty⟩
    threshold := Level.warning.number
    output := []
    errors := [] }
  match (ExceptT.run (program args)).run start with
  | (.ok (), r) => ⟨0, none, r⟩
  | (.error (.exit code), r) => ⟨code, none, r⟩
  | (.error (.fault f), r) => ⟨1, some f, r⟩

end Crosslink.CommandLine
