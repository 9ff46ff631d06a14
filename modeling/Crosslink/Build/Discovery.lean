import Crosslink.Error
import Crosslink.Text.LowerCase

/-!
# Discovery

The content files below a root: those with one of the wanted suffixes, in any case, that
are neither hidden nor inside a hidden directory. They are listed in the order of their
paths' segments. Everything below the root is looked at, so a path that is longer than the
system allows ends the search, also that of a directory or a hidden file.
-/

namespace Crosslink

/-- A name that begins with a dot or an underscore is hidden. -/
def isHidden (name : String) : Bool := name.startsWith "." || name.startsWith "_"

/-- Is a file with these names below the root a content file? -/
def isContentFile (extensions names : List String) : Bool :=
  let suffix := Text.lowerString (Path.suffix ⟨.relative, names⟩)
  (extensions.any fun e => Text.lowerString e == suffix) && !names.any isHidden

/-- Is a path longer than a path can be? -/
def isTooLong (p : Path) : Bool := FileTree.pathLimit < p.toString.utf8ByteSize

/-- The content files below a root. -/
def discover (tree : FileTree) (root : Path) (extensions : List String) :
    Except Failure (List Path) := do
  let entry ← (tree.look root).mapError fun f => .fault (.files f)
  match entry, tree.locate root with
  | some .directory, .ok names =>
    if (tree.namesBelow names).any fun below => isTooLong (root.join ⟨.relative, below⟩) then
      throw (.fault (.files .tooLong))
    let found := (tree.filesBelow names).filter fun f => isContentFile extensions f.1
    return (found.map fun f => root.join ⟨.relative, f.1⟩).mergeSort Path.le
  | _, _ => throw (.error (.rootMissing root))

end Crosslink
