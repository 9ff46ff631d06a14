import Crosslink.Link.Basic
import Crosslink.Page.FrontMatter

/-!
# Pages

A page is a text with metadata, a body and the links of the body. Rendering replaces the
destinations of changed links and keeps every other character.
-/

namespace Crosslink

open Text (Span)

/-- A page that was read. -/
structure Page where
  sourceFile : Path
  /-- The location seen from the content root. -/
  relativePath : Path
  metadata : Fields
  text : List Char
  bodyOffset : Nat
  links : List Link
  deriving Repr

namespace Page

/-- Read a page from its text. -/
def ofText (sourceFile relativePath : Path) (text : List Char) : Except Failure Page := do
  let metadata ← FrontMatter.metadata sourceFile text
  let bodyOffset := FrontMatter.bodyOffset text
  return {
    sourceFile, relativePath, metadata, text, bodyOffset
    links := Link.find text bodyOffset }

/-- The text after the front matter. -/
def body (p : Page) : List Char := p.text.drop p.bodyOffset

/-- A text from an offset on in which the spans are replaced. -/
def splice (text : List Char) : (offset : Nat) → List (Span × List Char) → List Char
  | offset, [] => text.drop offset
  | offset, (span, new) :: rest =>
    Span.slice ⟨offset, span.start⟩ text ++ new ++ splice text span.stop rest

/-- The replacement that a link asks for, if it is changed and has a place. -/
def edit? (text : List Char) (l : Link) : Option (Span × List Char) :=
  if l.changed then l.origin.span.map fun span => (span, l.replacement (span.slice text))
  else none

/-- The text with every changed link in its new form. -/
def render (p : Page) : List Char := splice p.text 0 (p.links.filterMap (edit? p.text))

/-- A page whose links are unchanged is rendered as it was read. -/
theorem render_of_unchanged {p : Page} (h : ∀ l ∈ p.links, l.changed = false) :
    p.render = p.text := by
  have hnone : p.links.filterMap (edit? p.text) = [] := by
    simp only [List.filterMap_eq_nil_iff]
    intro l hl
    simp [edit?, h l hl]
  simp [render, hnone, splice]

end Page

end Crosslink
