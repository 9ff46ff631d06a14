/-!
# Paths

Slash-separated paths in lexical normal form: repeated separators and single dots are
dropped when a path is read, double dots are kept. Two leading slashes name a root of
their own; one, or three and more, name the ordinary root. No file system is consulted.
-/

namespace Crosslink

/-- Where a path starts. -/
inductive Anchor where
  | relative
  | root
  | doubleRoot
  deriving DecidableEq, Repr

/-- The written form of an anchor. -/
def Anchor.text : Anchor → String
  | .relative => ""
  | .root => "/"
  | .doubleRoot => "//"

/-- A path: its anchor and the names between the separators. -/
structure Path where
  /-- Where the path starts. -/
  anchor : Anchor
  /-- The names, none of them empty or a single dot. -/
  segments : List String
  deriving DecidableEq, Repr

namespace Path

/-- The relative path without names. -/
def empty : Path := ⟨.relative, []⟩

/-- Number of slashes at the front. -/
def leadingSlashes (cs : List Char) : Nat := (cs.takeWhile (· == '/')).length

/-- The names of a written path. -/
def readSegments (cs : List Char) : List String :=
  ((cs.splitOn '/').map String.ofList).filter fun s => s != "" && s != "."

/-- Read a path. -/
def ofString (s : String) : Path :=
  let cs := s.toList
  let anchor := match leadingSlashes cs with
    | 0 => .relative
    | 2 => .doubleRoot
    | _ => .root
  ⟨anchor, readSegments cs⟩

/-- Write a path; the empty relative path is a single dot. -/
def toString (p : Path) : String :=
  if p.anchor = .relative ∧ p.segments = [] then "."
  else p.anchor.text ++ String.intercalate "/" p.segments

instance : ToString Path := ⟨toString⟩

/-- Does the path start at a root? -/
def isAbsolute (p : Path) : Bool := p.anchor != .relative

/-- The names, with the root as a name of its own at the front. -/
def parts (p : Path) : List String :=
  match p.anchor with
  | .relative => p.segments
  | a => a.text :: p.segments

/-- The path `q` seen from the directory `p`. -/
def join (p q : Path) : Path :=
  if q.isAbsolute then q else ⟨p.anchor, p.segments ++ q.segments⟩

/-- The directory that holds the path; roots and the empty path hold themselves. -/
def parent (p : Path) : Path := ⟨p.anchor, p.segments.dropLast⟩

/-- The last name, if there is one. -/
def name? (p : Path) : Option String := p.segments.getLast?

/-- Compare names one by one, a shorter list before its extensions. -/
def namesLe : List String → List String → Bool
  | [], _ => true
  | _ :: _, [] => false
  | a :: as, b :: bs => if a == b then namesLe as bs else decide (a < b)

/-- The order of paths by their parts. -/
def le (p q : Path) : Bool := namesLe p.parts q.parts

/-- Split a name into its stem and last suffix. A dot that is first or last in the name
starts no suffix. -/
def splitSuffix (name : String) : String × String :=
  let back := name.toList.reverse
  let tail := back.takeWhile (· != '.')
  let stem := (back.drop (tail.length + 1)).reverse
  if tail == [] || stem == [] || tail.length == back.length then (name, "")
  else (String.ofList stem, String.ofList ('.' :: tail.reverse))

/-- The last suffix of the path, with its dot, or nothing. -/
def suffix (p : Path) : String :=
  match p.name? with
  | some name => (splitSuffix name).2
  | none => ""

/-- Drop a final part of names that leads back up, as seen from the root directory. -/
def climb (names : List String) : List String :=
  (names.foldl (fun up name => if name == ".." then up.drop 1 else name :: up) []).reverse

/-- The absolute path that a path names when the root is the working directory. -/
def fromRoot (p : Path) : Path := if p.isAbsolute then p else ⟨.root, climb p.segments⟩

/-- The names of `p` below `base`, if it lies there and starts the same way. -/
def below? (base p : Path) : Option Path :=
  if base.anchor = p.anchor ∧ base.segments.isPrefixOf p.segments = true then
    some ⟨.relative, p.segments.drop base.segments.length⟩
  else none

theorem join_of_relative {p q : Path} (h : q.anchor = .relative) :
    p.join q = ⟨p.anchor, p.segments ++ q.segments⟩ := by
  simp [join, isAbsolute, h]

/-- A path joined to a base lies below that base. -/
theorem below?_join {p q : Path} (h : q.anchor = .relative) : p.below? (p.join q) = some q := by
  obtain ⟨anchor, segments⟩ := q
  cases h
  simp [join_of_relative, below?]

end Path

end Crosslink
