import Crosslink.Path

/-!
# File trees

A directory tree as a value: every directory and file with the names that lead to it from
the working directory. Paths are followed name by name, so a double dot needs the
directory before it to exist. Double dots at the front lead to the directories above the working
directory, which exist and of which nothing else is known. Absolute paths lie outside the tree
and name nothing.
-/

namespace Crosslink

/-- What a name in a tree stands for. -/
inductive Entry where
  | directory
  | file (bytes : List UInt8)
  deriving DecidableEq, Repr

/-- Why an operation on a tree fails. -/
inductive TreeFault where
  | missing
  | isDirectory
  | notDirectory
  | exists'
  /-- A name, or a whole path, with more bytes than a file can have. -/
  | tooLong
  /-- A name with a NUL, which no file can have. -/
  | unnameable
  deriving DecidableEq, Repr

/-- The number and wording of a fault. -/
def TreeFault.text : TreeFault → String
  | .missing => "[Errno 2] No such file or directory"
  | .isDirectory => "[Errno 21] Is a directory"
  | .notDirectory => "[Errno 20] Not a directory"
  | .exists' => "[Errno 17] File exists"
  | .tooLong => "[Errno 36] File name too long"
  | .unnameable => "embedded null byte"

/-- A tree below the working directory, whose own entry is not listed. -/
structure FileTree where
  entries : List (List String × Entry)
  deriving DecidableEq, Repr

namespace FileTree

/-- The tree without entries. -/
def empty : FileTree := ⟨[]⟩

/-- Do names lead nowhere but up? -/
def leadsUp (names : List String) : Bool := names.all (· == "..")

/-- The entry under given names. The working directory and those above it are directories. -/
def find? (tree : FileTree) (names : List String) : Option Entry :=
  if leadsUp names then some .directory
  else (tree.entries.find? fun e => e.1 == names).map (·.2)

/-- Write an entry: in place if its names are there, at the end if not. -/
def putEntry (names : List String) (entry : Entry) :
    List (List String × Entry) → List (List String × Entry)
  | [] => [(names, entry)]
  | e :: rest => if e.1 == names then (names, entry) :: rest else e :: putEntry names entry rest

/-- Store an entry under given names. -/
def store (tree : FileTree) (names : List String) (entry : Entry) : FileTree :=
  ⟨putEntry names entry tree.entries⟩

/-- The names of the directory above. -/
def above (here : List String) : List String :=
  if leadsUp here then here ++ [".."] else here.dropLast

/-- Most bytes of a name. -/
def nameLimit : Nat := 255

/-- Most bytes of a path. -/
def pathLimit : Nat := 4095

/-- Follow names from a directory; only the last one may be missing. -/
def walk (tree : FileTree) (here : List String) : List String → Except TreeFault (List String)
  | [] => .ok here
  | name :: rest =>
    if name == ".." then walk tree (above here) rest
    else if nameLimit < name.utf8ByteSize then .error .tooLong
    else
      let there := here ++ [name]
      if rest.isEmpty then .ok there
      else match tree.find? there with
        | some .directory => walk tree there rest
        | some (.file _) => .error .notDirectory
        | none => .error .missing

/-- Refuse a path that no file can have. -/
def checkPath (p : Path) : Except TreeFault Unit :=
  if p.segments.any fun name => name.toList.contains '\x00' then .error .unnameable
  else if pathLimit < p.toString.utf8ByteSize then .error .tooLong
  else .ok ()

/-- The names that a path leads to. -/
def locate (tree : FileTree) (p : Path) : Except TreeFault (List String) := do
  checkPath p
  if p.isAbsolute then throw .missing else walk tree [] p.segments

/-- The entry that a path leads to, if it leads to one. Only a path that is too long is a
fault. -/
def look (tree : FileTree) (p : Path) : Except TreeFault (Option Entry) :=
  match tree.locate p with
  | .ok names => .ok (tree.find? names)
  | .error .tooLong => .error .tooLong
  | .error _ => .ok none

/-- The entry that a path leads to. -/
def entry? (tree : FileTree) (p : Path) : Option Entry := (tree.look p).toOption.join

/-- Does the path lead to a directory? -/
def isDirectory (tree : FileTree) (p : Path) : Bool := tree.entry? p == some .directory

/-- The bytes of the file that a path leads to. -/
def read (tree : FileTree) (p : Path) : Except TreeFault (List UInt8) := do
  let names ← tree.locate p
  match tree.find? names with
  | some (.file bytes) => return bytes
  | some .directory => .error .isDirectory
  | none => .error .missing

/-- Make the directories that names lead through, those that exist being kept. -/
def makeFrom (here : List String) : FileTree → List String → FileTree × Except TreeFault Unit
  | tree, [] => (tree, .ok ())
  | tree, name :: rest =>
    if name == ".." then makeFrom (above here) tree rest
    else if nameLimit < name.utf8ByteSize then (tree, .error .tooLong)
    else
      let there := here ++ [name]
      match tree.find? there with
      | some .directory => makeFrom there tree rest
      | some (.file _) => (tree, .error (if rest.isEmpty then .exists' else .notDirectory))
      | none => makeFrom there (tree.store there .directory) rest

/-- Make a directory and those above it. -/
def makeDirectory (tree : FileTree) (p : Path) : FileTree × Except TreeFault Unit :=
  match checkPath p with
  | .error f => (tree, .error f)
  | .ok () => if p.isAbsolute then (tree, .error .missing) else makeFrom [] tree p.segments

/-- Write a file in a directory that exists. -/
def write (tree : FileTree) (p : Path) (bytes : List UInt8) : Except TreeFault FileTree := do
  let names ← tree.locate p
  match tree.find? names with
  | some .directory => .error .isDirectory
  | _ => return tree.store names (.file bytes)

/-- Write a file, making the directories above it first. -/
def plant (tree : FileTree) (p : Path) (bytes : List UInt8) : FileTree × Except TreeFault Unit :=
  match tree.makeDirectory p.parent with
  | (tree, .error f) => (tree, .error f)
  | (tree, .ok ()) =>
    match tree.write p bytes with
    | .ok tree => (tree, .ok ())
    | .error f => (tree, .error f)

/-- The names of an entry from given names on, if it lies below them. -/
def below? (names entry : List String) : Option (List String) :=
  let rest := entry.drop names.length
  if names.isPrefixOf entry && !rest.isEmpty && rest.head? != some ".." then some rest else none

/-- The names of all entries below given names, from there on. -/
def namesBelow (tree : FileTree) (names : List String) : List (List String) :=
  tree.entries.filterMap fun e => below? names e.1

/-- The files below given names, each with its names from there on. -/
def filesBelow (tree : FileTree) (names : List String) : List (List String × List UInt8) :=
  tree.entries.filterMap fun e =>
    match e.2 with
    | .file bytes => (below? names e.1).map (·, bytes)
    | .directory => none

/-- Remove the entry that a path leads to and all below it. -/
def remove (tree : FileTree) (p : Path) : FileTree :=
  match tree.locate p with
  | .ok names => ⟨tree.entries.filter fun e => !(names.isPrefixOf e.1)⟩
  | .error _ => tree

/-- Move the entry that a path leads to, and all below it, making directories as needed. -/
def move (tree : FileTree) (source target : Path) : FileTree :=
  let made := (tree.makeDirectory target.parent).1
  match made.locate source, made.locate target with
  | .ok old, .ok new =>
    let kept := made.entries.filter fun e => !(old.isPrefixOf e.1) && !(new.isPrefixOf e.1)
    let moved := (made.entries.filter fun e => old.isPrefixOf e.1).map fun e =>
      (new ++ e.1.drop old.length, e.2)
    ⟨kept ++ moved⟩
  | _, _ => made

theorem find?_of_leadsUp {names : List String} (h : leadsUp names = true) (tree : FileTree) :
    tree.find? names = some .directory := by simp [find?, h]

theorem find?_of_not_leadsUp {names : List String} (h : leadsUp names = false)
    (tree : FileTree) :
    tree.find? names = (tree.entries.find? fun e => e.1 == names).map (·.2) := by
  simp [find?, h]

/-- A stored entry is found where it was stored. -/
theorem find?_store_self {names : List String} (h : leadsUp names = false) (tree : FileTree)
    (entry : Entry) : (tree.store names entry).find? names = some entry := by
  rw [find?_of_not_leadsUp h]
  unfold store
  induction tree.entries with
  | nil => simp [putEntry]
  | cons e rest ih =>
    by_cases he : e.1 == names
    · simp [putEntry, he]
    · simpa [putEntry, he] using ih

/-- Storing an entry leaves every other one alone. -/
theorem find?_store_of_ne {names other : List String} (h : other ≠ names) (tree : FileTree)
    (entry : Entry) : (tree.store names entry).find? other = tree.find? other := by
  by_cases ho : leadsUp other = true
  · rw [find?_of_leadsUp ho, find?_of_leadsUp ho]
  rw [find?_of_not_leadsUp (by simpa using ho), find?_of_not_leadsUp (by simpa using ho)]
  unfold store
  have hn : (names == other) = false := by simpa using fun e => h e.symm
  induction tree.entries with
  | nil => simp [putEntry, hn]
  | cons e rest ih =>
    by_cases he : e.1 == names
    · have heq : e.1 = names := by simpa using he
      simp [putEntry, hn, heq]
    · by_cases hk : e.1 == other
      · simp [putEntry, he, hk]
      · simpa [putEntry, he, hk] using ih

end FileTree

end Crosslink
