import Crosslink.FileTree
import Crosslink.Issue
import Crosslink.Settings.Violation
import Crosslink.Text.Quoted
import Crosslink.Text.Utf8
import Crosslink.Value.Text
import Crosslink.Yaml.Fault

/-!
# Errors

Errors are causes. Each belongs to a category of a small hierarchy and has a message and
named details; the wording is in one place. Faults are failures that belong to no category
and are not reported as errors.
-/

namespace Crosslink

/-- The categories of errors, most general first. -/
inductive Category where
  | general
  | configuration
  | content
  | phaseOrder
  | resolution
  | issue (kind : IssueKind)
  | buildAborted
  deriving DecidableEq, Repr

namespace Category

/-- The title of a category. -/
def title : Category → String
  | .general => "DocrefError"
  | .configuration => "ConfigurationError"
  | .content => "ContentError"
  | .phaseOrder => "PhaseOrderError"
  | .resolution => "ResolutionError"
  | .issue .missingReference => "MissingReferenceError"
  | .issue .duplicateIdentifier => "DuplicateIdentifierError"
  | .issue .selfReference => "SelfReferenceError"
  | .issue .missingRepoPath => "MissingRepoPathError"
  | .issue .missingIdentifier => "MissingIdentifierError"
  | .buildAborted => "BuildAbortedError"

/-- All categories. -/
def all : List Category :=
  [.general, .configuration, .content, .phaseOrder, .resolution, .buildAborted]
    ++ IssueKind.all.map .issue

/-- The category with a given title. -/
def ofTitle? (s : String) : Option Category := all.find? fun c => c.title == s

/-- The category and those it belongs to, up to the most general. -/
def lineage : Category → List Category
  | .general => [.general]
  | .configuration => [.configuration, .general]
  | .content => [.content, .general]
  | .phaseOrder => [.phaseOrder, .general]
  | .resolution => [.resolution, .general]
  | .issue k => [.issue k, .resolution, .general]
  | .buildAborted => [.buildAborted, .resolution, .general]

/-- The kind name of a category that concerns links. -/
def kindText? : Category → Option String
  | .resolution => some "resolution"
  | .issue k => some k.text
  | .buildAborted => some "build_aborted"
  | _ => none

end Category

/-- A category with a message and details. -/
structure Report where
  category : Category
  message : String
  details : Fields
  deriving Repr

/-- How an argument of a report becomes a detail. -/
inductive Argument where
  /-- The text of a value that is not void. -/
  | path
  /-- A value that is not void. -/
  | content
  /-- A value that is not null. -/
  | place
  deriving DecidableEq, Repr

/-- The detail that an argument gives. -/
def Argument.detail? (a : Argument) (v : Value) : Option Value :=
  match a, v with
  | _, .null => none
  | .path, v => if v.isVoid then none else some (.text v.plainText)
  | .content, v => if v.isVoid then none else some v
  | .place, v => some v

/-- The arguments of reports about links. -/
def locationArguments : List (String × Argument) :=
  [("source_file", .path), ("line", .place), ("column", .place), ("target", .content)]

/-- The arguments of the reports of a category, in the order in which they become details. -/
def Category.arguments : Category → List (String × Argument)
  | .general | .phaseOrder => []
  | .configuration => [("config_file", .path), ("field", .content)]
  | .content => [("source_file", .path)]
  | .issue .duplicateIdentifier =>
    [("identifier", .content), ("previous_file", .path)] ++ locationArguments
  | .resolution | .issue _ | .buildAborted => locationArguments

namespace Report

/-- Add the details that arguments give; arguments of other categories give none. -/
def within (arguments : Fields) (r : Report) : Report :=
  r.category.arguments.foldl
    (fun r a =>
      match (arguments.get? a.1).bind a.2.detail? with
      | some v => { r with details := Fields.put a.1 v r.details }
      | none => r) r

/-- What a report is about, as far as it is known. -/
structure Context where
  configFile : Option String := none
  field : Option String := none
  identifier : Option String := none
  previousFile : Option String := none
  sourceFile : Option String := none
  line : Option Int := none
  column : Option Int := none
  target : Option String := none
  deriving DecidableEq, Repr

/-- The arguments of a context. -/
def Context.arguments (c : Context) : Fields :=
  let texts := [("config_file", c.configFile), ("field", c.field),
    ("identifier", c.identifier), ("previous_file", c.previousFile),
    ("source_file", c.sourceFile), ("target", c.target)]
  let numbers := [("line", c.line), ("column", c.column)]
  texts.filterMap (fun t => t.2.map fun s => (t.1, .text s))
    ++ numbers.filterMap fun n => n.2.map fun i => (n.1, .int i)

end Report

namespace Issue

/-- The context of an issue. -/
def context (i : Issue) : Report.Context := {
  identifier := i.target
  previousFile := i.relatedFile.map Path.toString
  sourceFile := some i.sourceFile.toString
  line := i.line
  column := i.column
  target := i.target }

/-- The report of an issue in its own category. -/
def report (i : Issue) : Report := Report.within i.context.arguments ⟨.issue i.kind, i.message, []⟩

end Issue

/-- A cause of failure that is reported to the user. -/
inductive Error where
  | rootMissing (root : Path)
  | outsideRoot (location root : Path)
  | undecodable (file : Path) (fault : Text.Utf8.Fault)
  | unreadable (file : Path) (fault : TreeFault)
  | malformedFrontMatter (file : Path)
  | registryFrozen
  | registryOpen (identifier : String)
  | malformedSettings (file : Path)
  | settingsNotMapping (file : Path)
  | invalidEnvironment (violations : List Settings.Violation)
  | invalidSettings (file : Path) (violations : List Settings.Violation)
  | buildAborted (issue : Issue)
  deriving DecidableEq, Repr

/-- The wording of a place that cannot be decoded. -/
def Text.Utf8.Fault.text (f : Text.Utf8.Fault) : String :=
  let place :=
    if f.size ≤ 1 then
      "byte 0x" ++ hexDigits 2 f.first.toNat ++ " in position " ++ toString f.start
    else "bytes in position " ++ toString f.start ++ "-" ++ toString (f.start + f.size - 1)
  "'utf-8' codec can't decode " ++ place ++ ": " ++ f.reason.text

namespace Error

/-- The category of an error. -/
def category : Error → Category
  | .rootMissing _ | .outsideRoot _ _ | .undecodable _ _ | .unreadable _ _
  | .malformedFrontMatter _ => .content
  | .registryFrozen | .registryOpen _ => .phaseOrder
  | .malformedSettings _ | .settingsNotMapping _ | .invalidEnvironment _
  | .invalidSettings _ _ => .configuration
  | .buildAborted _ => .buildAborted

/-- The message of an error. -/
def message : Error → String
  | .rootMissing root => "Content root not found or not a directory: " ++ root.toString
  | .outsideRoot location root =>
    location.toString ++ " is outside the content root " ++ root.toString
  | .undecodable _ fault => "Encoding error: " ++ fault.text
  | .unreadable file fault =>
    "Cannot read file: " ++ fault.text ++ ": " ++ Text.quoted file.toString
  | .malformedFrontMatter _ => "Invalid front matter"
  | .registryFrozen =>
    "Registry is frozen: identities cannot be registered during link resolution"
  | .registryOpen identifier =>
    "Cannot resolve " ++ Text.quoted identifier ++ ": identity registration has not completed"
  | .malformedSettings _ => "Invalid YAML"
  | .settingsNotMapping _ => "Top level of the config file must be a mapping"
  | .invalidEnvironment _ => "Invalid environment settings"
  | .invalidSettings _ _ => "Invalid configuration"
  | .buildAborted issue => "Build aborted: " ++ issue.describe

/-- The violations behind an error of the settings. -/
def violations : Error → Option (List Settings.Violation)
  | .invalidEnvironment vs => some vs
  | .invalidSettings _ vs => some vs
  | _ => none

/-- The context of an error. -/
def context : Error → Report.Context
  | .rootMissing file | .outsideRoot file _ | .undecodable file _ | .unreadable file _
  | .malformedFrontMatter file => { sourceFile := some file.toString }
  | .registryFrozen | .registryOpen _ => {}
  | .malformedSettings file | .settingsNotMapping file => { configFile := some file.toString }
  | .invalidEnvironment vs => { field := Settings.firstPlace? vs }
  | .invalidSettings file vs =>
    { configFile := some file.toString, field := Settings.firstPlace? vs }
  | .buildAborted i => i.context

/-- The details of an error that do not depend on its context. -/
def ownDetails : Error → Fields
  | .registryOpen identifier => [("identifier", .text identifier)]
  | .buildAborted i => [("kind", .text i.kind.text)]
  | _ => []

/-- The report of an error. -/
def report (e : Error) : Report := Report.within e.context.arguments ⟨e.category, e.message, e.ownDetails⟩

/-- The report of the issue that an ended build is raised from. -/
def cause? : Error → Option Report
  | .buildAborted i => some i.report
  | _ => none

end Error

/-- A failure that belongs to no category of errors. -/
inductive Fault where
  /-- A field of front matter with a name that pages use for themselves, or no name. -/
  | reservedField
  /-- Front matter in braces that is no JSON object. -/
  | malformedJson
  /-- A number or date that does not exist. -/
  | impossibleValue
  /-- A number without characters. -/
  | emptyNumber
  /-- A word that is no truth value. -/
  | unknownTruth
  /-- Text that is no timestamp. -/
  | noTimestamp
  /-- A timestamp that is no text. -/
  | timestampNotText
  /-- A number too large for its type. -/
  | overflow
  /-- Values that lie inside one another without an end, or too deeply. -/
  | tooDeep
  /-- A value of a kind that is not accepted for what it is given as. -/
  | wrongKind
  /-- A value without a part that is asked for. -/
  | missingPart
  /-- Bytes of a settings or environment file that are no text. -/
  | undecodable
  /-- An operation on files that failed. -/
  | files (f : TreeFault)
  /-- A home directory that nobody has. -/
  | unknownHome
  /-- A variable that should hold JSON and does not. -/
  | unreadableVariable
  /-- A variable of a file that no environment can hold. -/
  | unholdableVariable
  /-- A build that nobody works on. -/
  | noWorkers
  /-- Values of the environment or the settings that break rules. -/
  | invalid (violations : List Settings.Violation)
  deriving DecidableEq, Repr

/-- A fault in words. -/
def Fault.text : Fault → String
  | .reservedField => "front matter has a field that pages use for themselves"
  | .malformedJson => "front matter in braces is no JSON object"
  | .impossibleValue => "a number or a date does not exist"
  | .emptyNumber => "a number has no characters"
  | .unknownTruth => "a word is no truth value"
  | .noTimestamp => "a text is no timestamp"
  | .timestampNotText => "a timestamp is no text"
  | .overflow => "a number is too large"
  | .tooDeep => "values are nested too deeply"
  | .wrongKind => "a value is of the wrong kind"
  | .missingPart => "a value lacks a part"
  | .undecodable => "a file of settings is not in UTF-8"
  | .files f => f.text
  | .unknownHome => "a home directory is not known"
  | .unreadableVariable => "a variable that should hold JSON does not"
  | .unholdableVariable => "an environment cannot hold a variable"
  | .noWorkers => "a build has no workers"
  | .invalid _ => "settings are not valid"

namespace Report

/-- The fields of a mapping whose keys are names. -/
def fieldsOf (entries : List (Value × Value)) : Fields :=
  entries.filterMap fun e => match e.1 with
    | .text name => some (name, e.2)
    | _ => none

/-- Does one of the arguments with the given names give a detail? -/
def givesDetail (arguments : Fields) (names : List (String × Argument)) : Bool :=
  names.any fun a => ((arguments.get? a.1).bind a.2.detail?).isSome

/-- The details that a report starts with. Void details are no details, but a report of a
duplicate identifier writes its own ones into them as they are. -/
def startDetails (c : Category) (arguments : Fields) : Except Fault Fields :=
  match arguments.get? "details" with
  | none => .ok []
  | some (.map entries) => .ok (fieldsOf entries)
  | some v =>
    let own := c.arguments.filter fun a => !locationArguments.contains a
    if v.isVoid then
      if c == .issue .duplicateIdentifier && givesDetail arguments own then .error .wrongKind
      else .ok []
    else if givesDetail arguments c.arguments then .error .wrongKind
    else .error .missingPart

/-- The report of a category with a message and arguments. The report of an ended build is made
from an issue and from nothing else. -/
def ofArguments (c : Category) (message : String) (arguments : Fields) : Except Fault Report :=
  let known := "details" :: c.arguments.map (·.1)
  if c == .buildAborted then .error (if arguments.isEmpty then .missingPart else .wrongKind)
  else if arguments.all fun a => known.contains a.1 then do
    return within arguments ⟨c, message, ← startDetails c arguments⟩
  else .error .wrongKind

end Report

/-- An error or a fault. -/
inductive Failure where
  | error (e : Error)
  | fault (f : Fault)
  deriving DecidableEq, Repr

/-- The failure to read a document, given the error that reports a malformed one. -/
def Failure.ofDocument (malformed : Error) : Yaml.Fault → Failure
  | .malformed => .error malformed
  | .impossible => .fault .impossibleValue
  | .emptyNumber => .fault .emptyNumber
  | .noTruth => .fault .unknownTruth
  | .noTimestamp => .fault .noTimestamp
  | .notText => .fault .timestampNotText
  | .overflow => .fault .overflow
  | .tooDeep => .fault .tooDeep

end Crosslink
