import Crosslink.Error
import Crosslink.Text.LineBreak

/-!
# Text files of settings

Files of settings and of variables are in UTF-8, and each of their line breaks counts as a line
feed.
-/

namespace Crosslink.Settings

/-- The text of a file with every line break as a line feed. -/
def readText (tree : FileTree) (file : Path) : Except Fault (List Char) := do
  let bytes ← (tree.read file).mapError .files
  match Text.Utf8.decode bytes with
  | .ok cs => return Text.unifyBreaks cs
  | .error _ => .error .undecodable

/-- The text of a file of variables; one that is missing, or is a directory, is empty. -/
def variablesText (tree : FileTree) (file : Path) : Except Fault (List Char) := do
  match ← (tree.look file).mapError .files with
  | some (.file _) => readText tree file
  | _ => return []

end Crosslink.Settings
