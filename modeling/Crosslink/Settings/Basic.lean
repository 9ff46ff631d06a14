import Crosslink.Settings.Home
import Crosslink.Settings.Variables
import Crosslink.Yaml.Document

/-!
# Settings

The settings of a build, from the configuration file, the environment and what the caller
asks for, in rising order of weight from the environment to the caller. One variable, the
one for strictness, weighs more than the configuration file. Relative paths are seen from
the directory of the configuration file.
-/

namespace Crosslink

/-- The settings of one build. -/
structure Settings where
  contentRoot : Path
  outputDir : Path
  repoBaseUrl : String
  defaultBranch : String
  strict : Bool
  missingIdentifier : MissingPolicy
  repoLinkRequiresPath : Bool
  extensions : List String
  workers : Nat
  logFile : Option Path
  mode : Settings.BuildMode
  /-- The configuration file, if there is one. -/
  configFile : Option Path
  deriving DecidableEq, Repr

namespace Settings

/-- The entries of a configuration file's mapping; a file without content has none. -/
def mappingOf (file : Path) : Value → Except Failure (List (Value × Value))
  | .map entries => .ok entries
  | v => if v.isVoid then .ok [] else .error (.error (.settingsNotMapping file))

/-- The entries of a configuration file; a file that is missing has none. -/
def readEntries (tree : FileTree) (file : Path) : Except Failure (List (Value × Value)) :=
  match tree.look file with
  | .error f => .error (.fault (.files f))
  | .ok none => .ok []
  | .ok (some _) => do
    let text ← (readText tree file).mapError .fault
    let value ← (Yaml.load .settings text).mapError (Failure.ofDocument (.malformedSettings file))
    mappingOf file value

/-- Write an entry unless its key is there or the text is empty. -/
def fill (key text : String) (entries : List (Value × Value)) : List (Value × Value) :=
  if text == "" || (Value.lookup? key entries).isSome then entries
  else entries ++ [(.text key, .text text)]

/-- Write an entry if there is a value for it. -/
def override (key : String) (value : Option Value) (entries : List (Value × Value)) :
    List (Value × Value) :=
  match value with
  | none | some .null => entries
  | some v => Value.putEntry (.text key) v entries

/-- The entries of a configuration file together with variables and the caller's wishes. -/
def combine (build : BuildVariables) (wishes : Fields) (entries : List (Value × Value)) :
    List (Value × Value) :=
  let filled := fill "default_branch" build.defaultBranch
    (fill "repo_base_url" build.repoBaseUrl entries)
  let decided := override "strict_mode" (build.strict.map .bool) filled
  wishes.foldl (fun acc w => override w.1 (some w.2) acc) decided

/-- A path of the configuration, seen from a directory. -/
def resolve (env : Environment) (directory : Path) (text : String) : Except Fault Path := do
  let p ← expandHome env (Path.ofString text)
  return directory.join p

/-- The settings that a checked configuration stands for. -/
def ofConfiguration (env : Environment) (tree : FileTree) (build : BuildVariables)
    (file : Path) (c : Configuration) : Except Fault Settings := do
  let directory := file.parent
  let contentRoot ← resolve env directory c.contentRoot
  let outputDir ← resolve env directory c.outputDir
  let logFile ← match c.logFile with
    | none | some "" => pure none
    | some text => some <$> resolve env directory text
  return {
    contentRoot, outputDir
    repoBaseUrl := c.repoBaseUrl
    defaultBranch := c.defaultBranch
    strict := c.strictMode.getD build.strictDefault
    missingIdentifier := c.missingIdentifier
    repoLinkRequiresPath := c.repoLinkRequiresPath
    extensions := c.extensions
    workers := c.workers
    logFile
    mode := build.mode
    configFile := if (tree.entry? file).isSome then some file else none }

/-- A fault of variables as a failure to load settings. -/
def variablesFailure : Fault → Failure
  | .invalid vs => .error (.invalidEnvironment vs)
  | f => .fault f

/-- The settings of an environment and a configuration file. -/
def ofEnvironment (env : Environment) (tree : FileTree) (file : Path) (wishes : Fields) :
    Except Failure Settings := do
  let vars ← (Variables.ofEnvironment env tree).mapError variablesFailure
  let entries ← readEntries tree file
  match Configuration.ofEntries (combine vars.build wishes entries) with
  | .refused vs => .error (.error (.invalidSettings file vs))
  | .ok c => (ofConfiguration env tree vars.build file c).mapError .fault

end Settings

end Crosslink
