import Crosslink.Error
import Crosslink.Text.PercentEncoding

/-!
# Locations

A page has a location among the files and a canonical path on the site. The path drops a
markdown suffix and a final `index` and percent-encodes every segment.
-/

namespace Crosslink.Location

/-- A location seen from the content root. A location that is relative and does not begin
with the root is taken to be seen from there already. -/
def relative (root location : Path) : Except Error Path :=
  if location.isAbsolute then
    match root.fromRoot.below? location with
    | some below => .ok below
    | none => .error (.outsideRoot location root)
  else .ok ((root.below? location).getD location)

/-- The suffixes of pages that do not show in canonical paths. -/
def markdownSuffixes : List String := [".md", ".mdx"]

/-- The names of a location without a final markdown suffix. -/
def dropMarkdownSuffix (names : List String) : List String :=
  match names.getLast? with
  | some name =>
    let (stem, suffix) := Path.splitSuffix name
    if markdownSuffixes.contains suffix then names.dropLast ++ [stem] else names
  | none => names

/-- The names without a final name that stands for the directory itself. -/
def dropIndex (names : List String) : List String :=
  if names.getLast? == some "index" then names.dropLast else names

/-- The segments of the canonical path of a location seen from the root. -/
def siteSegments (location : Path) : List String :=
  dropIndex ((dropMarkdownSuffix location.segments).filter (· != "."))

/-- Segments as a path of the site. -/
def sitePath (segments : List String) : String :=
  "/" ++ String.intercalate "/" (segments.map Text.PercentEncoding.encodeString)

/-- The canonical path of a location. -/
def canonical (root location : Path) : Except Error String :=
  (relative root location).map fun below => sitePath (siteSegments below)

end Crosslink.Location
