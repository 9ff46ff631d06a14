import Crosslink.Build.Basic
import Crosslink.Console.Markup
import Crosslink.Console.Table

/-!
# Reports on the console

What the program says about builds, issues, the registry and errors, as lines.
-/

namespace Crosslink.Console

/-- The lines of markup across the console. -/
def printed (markup : String) : List String := wrap consoleWidth true (Markup.text markup)

/-- The lines of information. -/
def info (text : String) : List String := printed ("  [info]→[/] " ++ Markup.escape text)

/-- The lines that say that all is well. -/
def success (text : String) : List String := printed ("  [success]✓[/] " ++ Markup.escape text)

/-- The lines of a warning. -/
def warning (text : String) : List String := printed ("  [warning]![/] " ++ Markup.escape text)

/-- The lines that announce a step. -/
def step (number total : Nat) (text : String) : List String :=
  printed ("[step]Step " ++ toString number ++ "/" ++ toString total ++ ":[/] "
    ++ Markup.escape text)

/-- A fatal error with a hint. -/
def fatal (text hint : String) : List String :=
  printed ("\n[error]Error:[/] " ++ Markup.escape text)
    ++ printed ("[dim]Hint: " ++ Markup.escape hint ++ "[/]")

/-- The columns that the level of a message takes. -/
def levelWidth : Nat := 9

/-- A message of the log, its level filled up to eight columns. -/
def logLines (m : Message) : List String :=
  match wrap (consoleWidth - levelWidth) true (visible m.text) with
  | [] => []
  | first :: rest =>
    (Text.padRight levelWidth m.level.text ++ first)
      :: rest.map (Text.padRight levelWidth "" ++ ·)

/-- Text as it is shown in a cell. -/
def cell (text : String) : String := Markup.text (Markup.escape text)

/-- A text, or a dash where there is none. -/
def orDash (s : Option String) : String :=
  match s with
  | none | some "" => "-"
  | some s => s

/-- The table of issues; no issues make no table. -/
def issueTable (issues : List Issue) : List String :=
  if issues.isEmpty then []
  else Table.render {
    title := "Link issues"
    columns := [⟨"Location", true⟩, ⟨"Kind", false⟩, ⟨"Target", true⟩, ⟨"Message", true⟩]
    rows := issues.map fun i =>
      [cell i.location, i.kind.text, cell (orDash i.target), cell i.message] }

/-- The table of the registry. -/
def registryTable (records : List Record) : List String :=
  if records.isEmpty then ["No global identifiers registered"]
  else Table.render {
    title := "Registry"
    columns := [⟨"Identifier", false⟩, ⟨"Path", false⟩, ⟨"Title", false⟩, ⟨"Source", true⟩]
    rows := records.map fun r =>
      [cell r.identifier, cell r.canonicalPath, cell (orDash r.title),
        cell r.sourceFile.toString] }

/-- The summary of a build. -/
def summary (r : BuildResult) (wrote : Bool) : List String :=
  columns (
    [("Files", toString r.pages.length), ("Links rewritten", toString r.rewritten)]
      ++ (if wrote then [("Files written", toString r.written.length)] else [])
      ++ (if r.failed.isEmpty then [] else [("Unreadable files", toString r.failed.length)])
      ++ [("Issues", toString r.issues.length)])

/-- The panel of an error. -/
def errorPanel (e : Error) : List String :=
  let report := e.report
  let details := report.details.map fun d => "\n  • " ++ d.1 ++ ": " ++ d.2.plainText
  let (title, hint) := match e with
    | .buildAborted _ =>
      ("Build aborted", "\n\nHint: run with --no-strict to collect every issue")
    | _ => (report.category.title, "")
  panel title (visible ("✗ " ++ report.message ++ String.join details ++ hint))

/-- A record as a document. -/
def recordJson (r : Record) : Json := .object [
  ("identifier", .string r.identifier),
  ("canonical_path", .string r.canonicalPath),
  ("title", .ofString? r.title),
  ("source_file", .string r.sourceFile.toString)]

/-- The lines of the registry as a document. -/
def registryJson (records : List Record) : List String :=
  linesOf (Json.render false (.array (records.map recordJson)))

end Crosslink.Console
