import Crosslink.Proofs.Link.Destination
import Crosslink.Proofs.Link.Place
import Crosslink.Proofs.Link.Shift

/-!
# What the places of links point at

A line and a column denote one offset of a text, if any. The place of a link that is found denotes
the offset of its opening bracket. From there to the span of the link its label is written, and
the span covers the parentheses with a text between them that spells the target and the title of
the link, and nothing else.
-/

namespace Crosslink

namespace Text

/-- The offset that a line and a column denote, counted from one: whole lines come before it and,
on its own line, a part without line feeds. -/
inductive Position.Denotes (text : List Char) (place : Position) : (offset : Nat) → Prop
  | intro {lines line rest : List Char} (written : text = lines ++ (line ++ rest))
      (whole : WholeLines lines) (number : place.line = lines.count '\n' + 1)
      (unbroken : '\n' ∉ line) (column : place.column = line.length + 1) :
      Denotes text place (lines.length + line.length)

variable {text : List Char} {place : Position} {offset : Nat}

theorem Position.advance_of_not_mem {line : List Char} (h : '\n' ∉ line) (p : Position) :
    p.advance line = ⟨p.line, p.column + line.length⟩ := by
  induction line generalizing p with
  | nil => rfl
  | cons c line ih =>
    have hc : c ≠ '\n' := fun e => h (e ▸ List.mem_cons_self)
    have htail := ih (fun hmem => h (List.mem_cons_of_mem c hmem)) ⟨p.line, p.column + 1⟩
    rw [Position.advance, List.foldl_cons, if_neg (by simpa using hc), ← Position.advance, htail,
      List.length_cons, Nat.add_right_comm, Nat.add_assoc]

/-- The place of an offset denotes it. -/
theorem denotes_positionOf (h : offset ≤ text.length) :
    (positionOf text offset).Denotes text offset := by
  obtain ⟨lines, hlines, hfront, hline⟩ := exists_wholeLines_lastLine (text.take offset)
  have hplace : positionOf text offset =
      ⟨lines.count '\n' + 1, (lastLine (text.take offset)).length + 1⟩ := by
    rw [positionOf, hfront, Position.advance_append, hlines.advance,
      Position.advance_of_not_mem hline, ← hfront, Nat.add_comm 1, Nat.add_comm 1]
  have hlength : offset = lines.length + (lastLine (text.take offset)).length := by
    rw [← List.length_append, ← hfront, List.length_take_of_le h]
  have hdenotes : (positionOf text offset).Denotes text
      (lines.length + (lastLine (text.take offset)).length) := by
    have hwritten : text = lines ++ (lastLine (text.take offset) ++ text.drop offset) := by
      rw [← List.append_assoc, ← hfront, List.take_append_drop]
    exact .intro hwritten hlines (by rw [hplace]) hline (by rw [hplace])
  rwa [← hlength] at hdenotes

/-- Whole lines at the front of a text are told by their number. -/
theorem WholeLines.length_le {lines lines' : List Char} (h' : WholeLines lines')
    (hcount : lines.count '\n' = lines'.count '\n') {rest rest' : List Char}
    (hsame : lines ++ rest = lines' ++ rest') : lines'.length ≤ lines.length := by
  obtain ⟨more, rfl, -⟩ | ⟨more, rfl, -⟩ := List.append_eq_append_iff.mp hsame
  · -- the lines that come in addition would end with a line feed
    rcases List.eq_nil_or_concat more with rfl | ⟨front, c, rfl⟩
    · simp
    · obtain rfl : c = '\n' := by
        rcases h' with h' | h'
        · simp at h'
        · simpa using h'
      simp at hcount
  · simp

/-- A line and a column denote at most one offset. -/
theorem Position.Denotes.unique {offset' : Nat} (h : place.Denotes text offset)
    (h' : place.Denotes text offset') : offset' = offset := by
  obtain ⟨hwritten, hwhole, hnumber, -, hcolumn⟩ := h
  obtain ⟨hwritten', hwhole', hnumber', -, hcolumn'⟩ := h'
  have hcount := Nat.add_right_cancel (hnumber.symm.trans hnumber')
  have hsame := hwritten.symm.trans hwritten'
  have hle := hwhole'.length_le hcount hsame
  have hge := hwhole.length_le hcount.symm hsame.symm
  omega

end Text

namespace Link

open Text (Position Span)

variable {text : List Char} {offset : Nat}

/-- The place and the span of a link point at where it is written: its label begins at the offset
`start`, and its destination lies in `span`. -/
structure Points (text : List Char) (l : Link) (start : Nat) (span : Span) : Prop where
  /-- The line and the column of the link denote the offset. -/
  place_denotes : ∃ place : Position, l.origin.line = some (place.line : Int) ∧
    l.origin.column = some (place.column : Int) ∧ ∀ p, place.Denotes text p ↔ p = start
  span_eq : l.origin.span = some span
  bracket : text[start]? = some '['
  label : Span.slice ⟨start, span.start⟩ text = '[' :: (l.origin.text.toList ++ [']'])
  opens : text[span.start]? = some '('
  closes : text[span.stop - 1]? = some ')'
  apart : span.start < span.stop - 1
  unbroken : '\n' ∉ Span.slice ⟨span.start + 1, span.stop - 1⟩ text
  /-- What stands between the parentheses spells the target and the title of the link alone. -/
  spells : ∀ d, Spells (Span.slice ⟨span.start + 1, span.stop - 1⟩ text) d ↔
    d = ⟨l.url.toList, l.title.map String.toList⟩

/-- A part of a text is found between what stands before it and behind it. -/
theorem slice_middle (pre cs rest : List Char) :
    Span.slice ⟨pre.length, pre.length + cs.length⟩ (pre ++ (cs ++ rest)) = cs := by
  rw [← List.length_append, ← List.append_assoc, slice_prefix, List.drop_left]

theorem destination_ofOccurrence (text : List Char) (o : Occurrence) :
    ⟨(ofOccurrence text o).url.toList, (ofOccurrence text o).title.map String.toList⟩ =
      o.destination := by
  simp [ofOccurrence, ofOrigin]

/-- The place and the span of a link that is written behind some characters point at it. -/
theorem Inline.points (x : Inline) (pre rest : List Char) :
    (ofOccurrence (pre ++ (x.text ++ rest)) (x.occurrence pre.length)).Points
      (pre ++ (x.text ++ rest)) pre.length (x.occurrence pre.length).span := by
  obtain ⟨inside, htail, hspells⟩ := spells_of_destination? (x.tail_reads [])
  rw [List.append_nil] at htail
  have htext : pre ++ (x.text ++ rest) = pre ++ (x.head ++ '(' :: (inside ++ ')' :: rest)) := by
    simp [x.text_eq, htail]
  have hspan : (x.occurrence pre.length).span =
      ⟨(pre ++ x.head).length, (pre ++ x.head).length + 1 + inside.length + 1⟩ := by
    simp [occurrence, head, htail]
    omega
  have hinside : Span.slice ⟨(pre ++ x.head).length + 1,
      (pre ++ x.head).length + 1 + inside.length⟩ (pre ++ (x.text ++ rest)) = inside := by
    have hslice := slice_middle (pre ++ x.head ++ ['(']) inside (')' :: rest)
    have hopening : (pre ++ x.head ++ ['(']).length = (pre ++ x.head).length + 1 :=
      List.length_append
    rw [hopening] at hslice
    simpa [htext] using hslice
  have hlabel := slice_middle pre x.head ('(' :: (inside ++ ')' :: rest))
  rw [← htext, ← List.length_append] at hlabel
  have hdenotes : (Text.positionOf (pre ++ (x.text ++ rest)) pre.length).Denotes
      (pre ++ (x.text ++ rest)) pre.length := Text.denotes_positionOf (by simp)
  rw [hspan]
  exact {
    place_denotes := ⟨_, rfl, rfl, fun p => ⟨hdenotes.unique, fun hp => hp ▸ hdenotes⟩⟩
    span_eq := congrArg some hspan
    bracket := by simp [text]
    label := by simpa [ofOccurrence, ofOrigin, occurrence, head] using hlabel
    opens := by
      rw [htext, ← List.append_assoc]
      simp
    closes := by
      have hlength : (pre ++ x.head).length + 1 + inside.length =
          (pre ++ x.head ++ '(' :: inside).length := by
        simp
        omega
      rw [Nat.add_sub_cancel, hlength, htext]
      simp
    apart := by
      simp only [Nat.add_sub_cancel]
      omega
    unbroken := by
      rw [Nat.add_sub_cancel, hinside]
      exact hspells.not_mem
    spells := fun d => by
      rw [Nat.add_sub_cancel, hinside, destination_ofOccurrence]
      exact ⟨hspells.unique, fun h => h ▸ hspells⟩ }

/-- The place and the span of every link that is found point at where it is written, at or behind
the offset at which the search begins. -/
theorem find_points (hoffset : offset ≤ text.length) {l : Link} (h : l ∈ find text offset) :
    ∃ start span, l.Points text start span ∧ offset ≤ start := by
  obtain ⟨o, ho, rfl⟩ := of_mem_find_occurrences h
  have hstart := le_start_of_mem ho
  obtain ⟨pre, x, rest, rfl, rfl, -⟩ := exists_inline_of_mem_occurrences hoffset ho
  exact ⟨_, _, x.points pre rest, hstart⟩

/-- A link with a label on two lines, a target in angle brackets and escapes in its title. -/
theorem find_points_sample :
    let text := "See\n[a [b]\nc](<x y> \"s \\\"t\\\"\").\n".toList
    let l := ofOrigin ⟨"x y", "a [b]\nc", some "s \"t\"", some 2, some 1, some ⟨13, 30⟩⟩
    1 ≤ text.length ∧ l ∈ find text 1 ∧ ∃ start span, l.Points text start span ∧ 1 ≤ start := by
  intro text l
  have hoffset : 1 ≤ text.length := by decide +kernel
  have hfound : l ∈ find text 1 := by
    simp only [find, codeRegions, fencedFrom_eq_blocks]
    decide +kernel
  exact ⟨hoffset, hfound, find_points hoffset hfound⟩

end Link

end Crosslink
