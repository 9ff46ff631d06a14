/-!
# YAML tokens

The tokens of a YAML 1.1 stream, the two dialects in which streams are written, and the
character classes that both share.
-/

namespace Crosslink.Yaml

/-- What a dialect allows where the two differ. -/
structure Dialect where
  /-- Tabs separate tokens and may stand inside unquoted text. -/
  tabs : Bool
  /-- A byte order mark takes a column, and one that begins a line is skipped; otherwise it
  takes none, and only the one at the front of the stream is skipped. -/
  wideMark : Bool
  /-- Directives other than the version and tag directives are skipped. -/
  otherDirectives : Bool
  /-- The version directive may only name 1.1 or 1.2. -/
  knownVersions : Bool
  /-- The numbers of a version directive have at most nine digits, and a comment may follow them
  without a blank. -/
  shortVersions : Bool
  /-- In flow collections a question mark ends unquoted text, and a colon needs no blank
  after it to be an indicator before a flow indicator. -/
  flowQuestion : Bool
  /-- A key mark without a key in a flow sequence swallows the token after it. -/
  greedyKey : Bool
  /-- The lone tag mark on a node without content makes it empty text. -/
  markedText : Bool
  /-- A comma may follow a tag in a flow collection directly. -/
  tagComma : Bool
  /-- Brackets and commas may stand in shorthand tags. -/
  tagBrackets : Bool
  /-- A second exclamation mark anywhere in a tag demands a handle; otherwise only one right
  after the word at the front makes a handle. -/
  strictHandles : Bool
  /-- Escapes may name numbers of no character. -/
  looseEscapes : Bool
  /-- How deep collections may nest, if there is a limit. -/
  depthLimit : Option Nat
  deriving DecidableEq, Repr

/-- The dialect of front matter. -/
def Dialect.page : Dialect where
  tabs := true
  wideMark := true
  otherDirectives := false
  knownVersions := true
  shortVersions := true
  flowQuestion := false
  greedyKey := true
  markedText := true
  tagComma := true
  tagBrackets := false
  strictHandles := false
  looseEscapes := false
  depthLimit := none

/-- The dialect of settings files. -/
def Dialect.settings : Dialect where
  tabs := false
  wideMark := false
  otherDirectives := true
  knownVersions := false
  shortVersions := false
  flowQuestion := true
  greedyKey := false
  markedText := false
  tagComma := false
  tagBrackets := true
  strictHandles := true
  looseEscapes := true
  depthLimit := some 489

/-- A directive before a document. -/
inductive Directive where
  | version (major minor : Nat)
  | tag (handle leading : String)
  | other
  deriving DecidableEq, Repr

/-- A token of a stream. -/
inductive Token where
  | directive (d : Directive)
  | documentStart
  | documentEnd
  | streamEnd
  | blockSequenceStart
  | blockMappingStart
  | blockEnd
  | flowSequenceStart
  | flowSequenceEnd
  | flowMappingStart
  | flowMappingEnd
  | blockEntry
  | flowEntry
  | key
  | value
  | alias (name : String)
  | anchor (name : String)
  | tag (handle : Option String) (suffix : String)
  | scalar (plain : Bool) (text : String)
  deriving DecidableEq, Repr

/-- The line breaks of YAML 1.1. -/
def isBreak (c : Char) : Bool :=
  c == '\n' || c == '\r' || c == '\x85' || c == '\u2028' || c == '\u2029'

/-- A line break or the end of the stream. -/
def isBreakOrEnd : Option Char → Bool
  | some c => isBreak c
  | none => true

/-- A space, a tab, a line break or the end of the stream. -/
def isBlankOrEnd : Option Char → Bool
  | some c => c == ' ' || c == '\t' || isBreak c
  | none => true

/-- A space, a line break or the end of the stream. -/
def isSpaceOrEnd : Option Char → Bool
  | some c => c == ' ' || isBreak c
  | none => true

/-- Characters that a stream may hold. -/
def isAllowed (c : Char) : Bool :=
  let n := c.toNat
  n == 9 || n == 10 || n == 13 || (0x20 ≤ n && n ≤ 0x7E) || n == 0x85
    || (0xA0 ≤ n && n ≤ 0xD7FF)
    || (0xE000 ≤ n && n ≤ 0xFFFD)
    || 0x10000 ≤ n

/-- Letters, digits, dash and underscore. -/
def isWord (c : Char) : Bool := c.isAlphanum || c == '-' || c == '_'

end Crosslink.Yaml
