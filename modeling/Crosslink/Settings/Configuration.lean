import Crosslink.Settings.MissingPolicy
import Crosslink.Settings.Scalar
import Crosslink.Text.LowerCase
import Crosslink.Value.Text

/-!
# The configuration

The fields of a configuration document, each with a default and rules. All violations are
collected: those of the fields in the order in which fields are declared, then the keys
that name no field. Accepted values are brought to a normal form.
-/

namespace Crosslink.Settings

/-- A checked configuration. -/
structure Configuration where
  contentRoot : String
  outputDir : String
  repoBaseUrl : String
  defaultBranch : String
  /-- Nothing if the build mode is to decide. -/
  strictMode : Option Bool
  missingIdentifier : MissingPolicy
  repoLinkRequiresPath : Bool
  extensions : List String
  workers : Nat
  logFile : Option String
  deriving DecidableEq, Repr

namespace Configuration

/-- The values of fields that a document leaves out. -/
def default : Configuration where
  contentRoot := "documentation"
  outputDir := "build/content"
  repoBaseUrl := "https://github.com/caas-team/GoKubeDownscaler"
  defaultBranch := "main"
  strictMode := none
  missingIdentifier := .warn
  repoLinkRequiresPath := false
  extensions := [".md", ".mdx"]
  workers := 4
  logFile := none

/-- Text that holds more than blanks, without blanks around it. -/
def requireText (s : String) : Except Rule String :=
  let trimmed := Text.trimString s
  if trimmed == "" then .error (.fieldRule (some "must not be empty")) else .ok trimmed

/-- Does an address name one of the two protocols of the web? -/
def isWebAddress (s : String) : Bool := s.startsWith "http://" || s.startsWith "https://"

/-- An address on the web, without slashes at its end. -/
def requireAddress (s : String) : Except Rule String :=
  if isWebAddress s then .ok (Text.stripEnd '/' s)
  else .error (.fieldRule (some
    ("repo_base_url must start with http:// or https://, got: " ++ s)))

/-- A branch name without spaces, and without slashes at its ends. -/
def requireBranch (s : String) : Except Rule String := do
  let name ← requireText s
  if name.toList.contains ' ' then
    .error (.fieldRule (some ("default_branch must not contain spaces, got: " ++ Text.quoted name)))
  else .ok (Text.strip '/' name)

/-- Extensions in lower case, each with its dot. -/
def requireExtensions (extensions : List String) : Except Rule (List String) :=
  match extensions.find? fun e => !e.startsWith "." with
  | some e => .error (.fieldRule (some ("Extension '" ++ e ++ "' must start with a dot")))
  | none => .ok (extensions.map Text.lowerString)

/-- A number of workers from 1 to 64. -/
def requireWorkers (n : Int) : Except Rule Nat :=
  if n < 1 then .error .tooSmall
  else if 64 < n then .error .tooLarge
  else .ok n.toNat

/-- The name of a policy. -/
def readPolicy (v : Value) : Except Rule MissingPolicy :=
  match (readString v).toOption.bind MissingPolicy.ofText? with
  | some p => .ok p
  | none => .error .choice

/-- The extensions of a document: first each one is checked, then all together. -/
def readExtensions (name : String) (v : Value) : Checked (List String) :=
  (Checked.named name (readItems v)).andThen fun items =>
    (Checked.within name (Checked.items readString 0 items)).andThen fun texts =>
      Checked.named name (requireExtensions texts)

/-- A field of a document, or its default. -/
def field {α : Type} (entries : List (Value × Value)) (name : String) (fallback : α)
    (read : String → Value → Checked α) : Checked α :=
  match Value.lookup? name entries with
  | some v => read name v
  | none => .ok fallback

/-- A reader of one value as a reader of a field. -/
def single {α : Type} (read : Value → Except Rule α) (name : String) (v : Value) : Checked α :=
  Checked.named name (read v)

/-- The names of the fields. -/
def fieldNames : List String :=
  ["content_root", "output_dir", "repo_base_url", "default_branch", "strict_mode",
    "missing_identifier", "repo_link_requires_path", "extensions", "workers", "log_file"]

/-- The place of a key that is no string. -/
def stepOfKey : Value → Step
  | .bool b => .index (if b then 1 else 0)
  | .int n =>
    if fitsWord n then .index n
    else if (Value.int n).hasLongNumber then .name "<unprintable int object>"
    else .name (toString n)
  | v => .name v.display

/-- What is wrong with a key that names no field. -/
def keyViolation? : Value → Option Violation
  | .text s => if fieldNames.contains s then none else some (.ofField s .unknownKey)
  | v => some ⟨[stepOfKey v], .invalidKey⟩

/-- A reader of text with a rule. -/
def text (require : String → Except Rule String) : String → Value → Checked String :=
  single fun v => readString v >>= require

/-- The fields of a mapping; keys that name no field are not looked at. -/
def fieldsOf (entries : List (Value × Value)) : Checked Configuration :=
  mk
    <$> field entries "content_root" default.contentRoot (text requireText)
    <*> field entries "output_dir" default.outputDir (text requireText)
    <*> field entries "repo_base_url" default.repoBaseUrl (text requireAddress)
    <*> field entries "default_branch" default.defaultBranch (text requireBranch)
    <*> field entries "strict_mode" default.strictMode (single (readOptional readTruth))
    <*> field entries "missing_identifier" default.missingIdentifier (single readPolicy)
    <*> field entries "repo_link_requires_path" default.repoLinkRequiresPath (single readTruth)
    <*> field entries "extensions" default.extensions readExtensions
    <*> field entries "workers" default.workers (single fun v => readInt v >>= requireWorkers)
    <*> field entries "log_file" default.logFile (single (readOptional readString))

/-- The configuration of a mapping. -/
def ofEntries (entries : List (Value × Value)) : Checked Configuration :=
  (fieldsOf entries).ruledOutBy (entries.filterMap fun e => keyViolation? e.1)

/-- The configuration of a document, which must be a mapping. -/
def ofValue : Value → Checked Configuration
  | .map entries => ofEntries entries
  | _ => .refused [⟨[], .mappingType⟩]

end Configuration

end Crosslink.Settings
