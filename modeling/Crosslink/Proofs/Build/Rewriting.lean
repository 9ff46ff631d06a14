import Crosslink.Proofs.Build.Address
import Crosslink.Proofs.Build.Finished
import Crosslink.Proofs.Page.Place

/-!
# Rewritten links in the output

A link that is rewritten is meant to be a link again where it stands in the rendered page, to its
new target and with its title. Quotes and backslashes of a title are escaped, but a line feed is
written as it is, and no title that is read may hold one. What is written before a link may also
hide it: a title or an anchor may complete code or the text of an earlier link.
-/

namespace Crosslink

/-- No target that is found holds an angle bracket. -/
theorem Link.ne_angle_of_mem_find {text : List Char} {offset : Nat} {l : Link}
    (h : l ∈ find text offset) : ∀ c ∈ l.url.toList, c ≠ '<' ∧ c ≠ '>' := by
  obtain ⟨o, ho, rfl⟩ := of_mem_find_occurrences h
  obtain ⟨pre, x, rest, -, rfl, -⟩ := exists_inline_of_mem ho
  intro c hc
  exact ne_angle_of_destination? (x.tail_reads []) c
    (String.toList_ofList (l := x.destination.url) ▸ hc)

namespace Build

variable {settings : Settings}

namespace Sample

/-- A page that links to another one, which has a title, written in quotes. -/
def titled (title : String) : FileTree := ⟨[
  (["content"], .directory),
  (["content", "a.md"], .file (Text.Utf8.encode "[b](ref:b)".toList)),
  (["content", "b.md"], .file (Text.Utf8.encode
    ("---\nglobalReference: b\ntitle: \"" ++ title ++ "\"\n---\n").toList))]⟩

/-- The files of both pages. -/
def files : List Path := [⟨.relative, ["content", "a.md"]⟩, ⟨.relative, ["content", "b.md"]⟩]

end Sample

end Build

end Crosslink
