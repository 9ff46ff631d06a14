import Crosslink.Text.Blank

/-!
# Link targets

What the target of a link asks for: another page by its global identifier, a place in the
source repository, or nothing that concerns this program. A closing parenthesis ends a
token, because it belongs to the link around it.
-/

namespace Crosslink

/-- What a link points to. -/
inductive Target where
  /-- The page that declares an identifier, at a section if an anchor is given. -/
  | reference (identifier : String) (anchor : Option String)
  /-- A file or directory of the repository, or its root. -/
  | repository (path : Option String)
  /-- Any other target, as it was written. -/
  | plain (url : String)
  deriving DecidableEq, Repr

namespace Target

/-- Blanks and parentheses end every part of a token. -/
def isBreak (c : Char) : Bool := Text.isBlank c || c == '(' || c == ')'

/-- An identifier also ends before its anchor. -/
def isIdentifierChar (c : Char) : Bool := !isBreak c && c != '#'

/-- Text without blanks around it, and without one pair of angle brackets. -/
def unwrap (cs : List Char) : List Char :=
  match Text.trim cs with
  | '<' :: rest =>
    if rest.getLast? == some '>' then Text.trim rest.dropLast else '<' :: rest
  | trimmed => trimmed

/-- Is the rest after a token empty, or does it begin with the link's own parenthesis? -/
def ends (rest : List Char) : Bool :=
  match rest with
  | [] => true
  | c :: _ => c == ')'

/-- Text as a string, unless it is empty. -/
def nonEmpty? (cs : List Char) : Option String :=
  if cs.isEmpty then none else some (String.ofList cs)

/-- The identifier and anchor that follow the mark of a reference. -/
def reference? (cs : List Char) : Option Target :=
  let identifier := cs.takeWhile isIdentifierChar
  let (anchor, rest) := match cs.dropWhile isIdentifierChar with
    | '#' :: tail => (tail.takeWhile (!isBreak ·), tail.dropWhile (!isBreak ·))
    | rest => ([], rest)
  if !identifier.isEmpty && ends rest then
    some (.reference (String.ofList identifier) (nonEmpty? anchor))
  else none

/-- The path that follows the mark of a repository link. Leading slashes do not count. -/
def repository? (cs : List Char) : Option Target :=
  let (path, rest) := match cs with
    | ':' :: tail => (tail.takeWhile (!isBreak ·), tail.dropWhile (!isBreak ·))
    | rest => ([], rest)
  if ends rest then some (.repository (nonEmpty? (path.dropWhile (· == '/')))) else none

/-- The mark of a reference. -/
def referenceMark : List Char := ['r', 'e', 'f', ':']

/-- The mark of a repository link. -/
def repositoryMark : List Char := ['r', 'e', 'p', 'o']

/-- The token that unwrapped text spells. -/
def token? (cs : List Char) : Option Target :=
  if referenceMark.isPrefixOf cs then reference? (cs.drop referenceMark.length)
  else if repositoryMark.isPrefixOf cs then repository? (cs.drop repositoryMark.length)
  else none

/-- Read a link target. -/
def ofString (raw : String) : Target := (token? (unwrap raw.toList)).getD (.plain raw)

/-- The spelling of a target that is read back as itself. -/
def toString : Target → String
  | .reference identifier none => "ref:" ++ identifier
  | .reference identifier (some anchor) => "ref:" ++ identifier ++ "#" ++ anchor
  | .repository none => "repo"
  | .repository (some path) => "repo:" ++ path
  | .plain url => url

end Target

end Crosslink
