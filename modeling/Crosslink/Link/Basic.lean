import Crosslink.Link.Code
import Crosslink.Link.Inline
import Crosslink.Text.LineBreak

/-!
# Links

A link remembers how it was written next to what has become of it: its target and title
may be replaced, or it may be made inert, so that it stays visible as plain text.
-/

namespace Crosslink

open Text (Span)

/-- A link as it was written. -/
structure Link.Origin where
  url : String
  text : String
  title : Option String
  /-- Line and column of the opening bracket, if known. -/
  line : Option Int
  column : Option Int
  /-- The destination with its parentheses, if known. -/
  span : Option Span
  deriving DecidableEq, Repr

/-- A link and what it has become. -/
structure Link where
  origin : Link.Origin
  url : String
  title : Option String
  /-- Is the link kept as plain text? -/
  inert : Bool
  deriving DecidableEq, Repr

namespace Link

/-- A link that nothing has happened to. -/
def ofOrigin (o : Origin) : Link := ⟨o, o.url, o.title, false⟩

/-- Does the link differ from what was written? -/
def changed (l : Link) : Bool :=
  l.inert || l.url != l.origin.url || l.title != l.origin.title

/-- The link that an occurrence in a text stands for. -/
def ofOccurrence (text : List Char) (o : Occurrence) : Link :=
  let place := Text.positionOf text o.start
  ofOrigin {
    url := String.ofList o.destination.url
    text := String.ofList o.text
    title := o.destination.title.map String.ofList
    line := some place.line
    column := some place.column
    span := some o.span }

/-- The links of a text from an offset on that do not begin inside code. -/
def find (text : List Char) (offset : Nat) : List Link :=
  let code := codeRegions text offset
  ((occurrences text offset).filter fun o => !Span.anyContains code o.start).map
    (ofOccurrence text)

/-- A title in double quotes, with quotes and backslashes escaped. -/
def quoteTitle (title : List Char) : List Char :=
  ['"'] ++ title.flatMap (fun c => if c == '\\' || c == '"' then ['\\', c] else [c]) ++ ['"']

/-- A target, in angle brackets if it holds blanks. -/
def writeTarget (url : List Char) : List Char :=
  if url.any Text.isBlank then ['<'] ++ url ++ ['>'] else url

/-- A destination with a title, unless the title is empty. -/
def writeDestination (url : List Char) (title : Option (List Char)) : List Char :=
  match title with
  | some (c :: cs) => ['('] ++ writeTarget url ++ [' '] ++ quoteTitle (c :: cs) ++ [')']
  | _ => ['('] ++ writeTarget url ++ [')']

/-- A destination between escaped parentheses. -/
def escapeDestination (written : List Char) : List Char :=
  ['\\', '('] ++ (written.drop 1).dropLast ++ ['\\', ')']

/-- What takes the place of a destination. -/
def replacement (l : Link) (written : List Char) : List Char :=
  if l.inert then escapeDestination written
  else writeDestination l.url.toList (l.title.map String.toList)

@[simp] theorem changed_ofOrigin (o : Origin) : (ofOrigin o).changed = false := by
  simp [ofOrigin, changed]

end Link

end Crosslink
