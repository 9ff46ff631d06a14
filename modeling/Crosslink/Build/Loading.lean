import Crosslink.Page.Basic
import Crosslink.Page.Location

/-!
# Loading pages

A page is loaded from a file in UTF-8 whose line breaks are unified. Files that cannot be
read, decoded or parsed are errors of the page; other faults end the build.
-/

namespace Crosslink

/-- Read a page. -/
def Page.load (tree : FileTree) (root file : Path) : Except Failure Page := do
  let bytes ← (tree.read file).mapError fun f =>
    if f = .unnameable then .fault (.files f) else .error (.unreadable file f)
  let cs ← (Text.Utf8.decode bytes).mapError fun f => .error (.undecodable file f)
  let below ← (Location.relative root file).mapError .error
  Page.ofText file below (Text.unifyBreaks cs)

/-- The pages of a build and the files that gave none, with the reason. -/
structure Loaded where
  pages : List Page
  failed : List (Path × Error)
  deriving Repr

namespace Loaded

/-- Sort the outcomes of loading; the first fault that is no error of a page ends it. -/
def collect : List (Path × Except Failure Page) → Except Fault Loaded
  | [] => .ok ⟨[], []⟩
  | (file, outcome) :: rest =>
    match outcome with
    | .error (.fault f) => .error f
    | .ok page => (collect rest).map fun l => { l with pages := page :: l.pages }
    | .error (.error e) => (collect rest).map fun l => { l with failed := (file, e) :: l.failed }

/-- Load files in order. -/
def ofFiles (tree : FileTree) (root : Path) (files : List Path) : Except Fault Loaded :=
  collect (files.map fun f => (f, Page.load tree root f))

end Loaded

end Crosslink
