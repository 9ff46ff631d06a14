import Crosslink.Json.Reader
import Crosslink.Log
import Crosslink.Settings.Configuration
import Crosslink.Settings.Lookup

/-!
# Settings in variables

The settings that the environment may hold: the build mode with what goes with it, and the
level of the log. Names of variables are compared without regard to case unless a part asks
for more. Each of the two parts may also be given as one variable in JSON, whose members win
over single variables.
-/

namespace Crosslink.Settings

/-- What a build is made for. -/
inductive BuildMode where
  | development
  | production
  deriving DecidableEq, Repr

namespace BuildMode

/-- The name of a mode. -/
def text : BuildMode → String
  | .development => "development"
  | .production => "production"

/-- The names of the modes, short forms included. -/
def names : List (String × BuildMode) :=
  [("development", .development), ("production", .production), ("dev", .development),
    ("prod", .production)]

/-- The mode with a given name, in any case and with blanks around it. -/
def ofText (s : String) : Except Rule BuildMode :=
  let name := Text.lowerString (Text.trimString s)
  match names.find? fun n => n.1 == name with
  | some n => .ok n.2
  | none => .error (.fieldRule (some
      ("DOCREF_ENV must be one of ['development', 'production'], got: " ++ s)))

end BuildMode

/-- What variables say about builds. -/
structure BuildVariables where
  mode : BuildMode
  strict : Option Bool
  repoBaseUrl : String
  defaultBranch : String
  deriving DecidableEq, Repr

namespace BuildVariables

/-- Is the build strict unless the configuration decides? -/
def strictDefault (b : BuildVariables) : Bool := b.strict.getD (b.mode == .production)

/-- An address on the web without slashes at its end, or nothing. -/
def requireAddress (s : String) : Except Rule String :=
  if s == "" || Configuration.isWebAddress s then .ok (Text.stripEnd '/' s)
  else .error (.fieldRule (some
    ("DOCREF_REPO_BASE_URL must start with http:// or https://, got: " ++ s)))

/-- One of the values that are there, or its default. -/
def field {α : Type} (values : String → Option Value) (name : String) (fallback : α)
    (read : Value → Except Rule α) : Checked α :=
  match values name with
  | some v => Checked.named name (read v)
  | none => .ok fallback

/-- Check named values. -/
def check (values : String → Option Value) : Checked BuildVariables :=
  mk
    <$> field values "env" .development (fun v => readString v >>= BuildMode.ofText)
    <*> field values "strict" none (readOptional readTruth)
    <*> field values "repo_base_url" "" (fun v => readString v >>= requireAddress)
    <*> field values "default_branch" "" readString

end BuildVariables

/-- The level of the log. -/
def checkLevel (value : Option Value) : Checked Level :=
  match value with
  | none => .ok .info
  | some v => Checked.named "LOG_LEVEL" do
    let name ← readString v
    match Level.ofText? name with
    | some level => return level
    | none => .error (.fieldRule none)

/-- The member of a mapping whose key is given in lower case; of several, the last one. -/
def member? (entries : List (Value × Value)) (name : String) : Option Value :=
  (entries.reverse.find? fun e =>
    match e.1 with
    | .text key => Text.lowerString key == name
    | _ => false).map (·.2)

/-- The members that win over variables, if a part is given in JSON. -/
inductive Part where
  | unset
  | members (entries : List (Value × Value))
  | notMapping
  deriving Repr

/-- A part of the settings; one that is null counts as not given. -/
def part (env : Environment) (name : String) : Except Fault Part :=
  match (Lookup.plain "").inVariables? env.entries name with
  | some (.text text) =>
    match Json.read text.toList with
    | .error .tooDeep => .error .tooDeep
    | .error _ => .error .unreadableVariable
    | .ok .null => .ok .unset
    | .ok (.map entries) => .ok (.members entries)
    | .ok _ => .ok .notMapping
  | _ => .ok .unset

/-- The names that a part has in the settings, and its single settings in variables. -/
structure Part.Names where
  part : String
  /-- What the variables of the part begin with. -/
  leading : String
  /-- The variable of a field, given what variables begin with. -/
  nameOf : (leading field : String) → String

/-- The names of the part about builds. -/
def buildNames : Part.Names := ⟨"build", "DOCREF_", fun leading field => leading ++ field⟩

/-- The names of the part about the program, whose only variable has a name of its own. -/
def appNames : Part.Names := ⟨"app", "", fun _ _ => "LOG_LEVEL"⟩

/-- The single settings of a part that is found in a given way. -/
def Part.Names.singles (n : Part.Names) (l : Lookup) (env : Environment) (tree : FileTree) :
    Except Fault (String → Option Value) := do
  let found ← l.settings env tree
  return fun field => found (n.nameOf l.leading field)

/-- Check a part: single settings on their own, or members before single settings under the
name of the part. Violations of single settings are reported at once; a file of variables that
is no text is a violation of the part that names it. -/
def Part.check {α : Type} (p : Part) (n : Part.Names) (env : Environment) (tree : FileTree)
    (read : (String → Option Value) → Checked α) : Except Fault (Checked α) :=
  match p with
  | .unset => do
    match read (← n.singles (.plain n.leading) env tree) with
    | .ok a => return .ok a
    | .refused vs => throw (.invalid vs)
  | .members entries => do
    match n.singles (← Lookup.ofMembers n.leading entries) env tree with
    | .error .undecodable => return .refused [.ofField n.part (.fieldRule none)]
    | .error f => throw f
    | .ok single =>
      return Checked.within n.part
        (read fun field => (member? entries field).orElse fun _ => single field)
  | .notMapping => .ok (.refused [.ofField n.part .mappingType])

/-- The level among named values. -/
def readLevel (values : String → Option Value) : Checked Level := checkLevel (values "log_level")

/-- All settings in variables. -/
structure Variables where
  build : BuildVariables
  level : Level
  deriving DecidableEq, Repr

namespace Variables

/-- The part about builds, from single variables. -/
def buildOf (env : Environment) : Checked BuildVariables :=
  BuildVariables.check fun field =>
    (Lookup.plain buildNames.leading).inVariables? env.entries
      (buildNames.nameOf buildNames.leading field)

/-- The level of the log, from its single variable. -/
def levelOf (env : Environment) : Checked Level :=
  readLevel fun field =>
    (Lookup.plain appNames.leading).inVariables? env.entries
      (appNames.nameOf appNames.leading field)

/-- The settings of an environment. -/
def ofEnvironment (env : Environment) (tree : FileTree) : Except Fault Variables := do
  let buildPart ← part env "build"
  let levelPart ← part env "app"
  let build ← buildPart.check buildNames env tree BuildVariables.check
  let level ← levelPart.check appNames env tree readLevel
  match mk <$> build <*> level with
  | .ok v => .ok v
  | .refused vs => .error (.invalid vs)

end Variables

end Crosslink.Settings
