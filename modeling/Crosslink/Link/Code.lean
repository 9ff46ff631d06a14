import Crosslink.Text.Blank
import Crosslink.Text.Span

/-!
# Code in markdown

Links are not read inside code. A fenced block runs from a line that opens with at least
three backticks or tildes to a line that closes it, or to the end of the text. A code span
runs from a run of backticks to the next run of the same length in the same paragraph.
-/

namespace Crosslink.Link

open Text (Span)

/-- The character and length of the run that opens a fenced block. -/
structure Fence where
  mark : Char
  size : Nat
  deriving DecidableEq, Repr

namespace Fence

/-- A line without its indentation of at most three spaces. -/
def unindent? (line : List Char) : Option (List Char) :=
  if (line.takeWhile (· == ' ')).length ≤ 3 then some (line.dropWhile (· == ' ')) else none

/-- The fence that a line opens: at least three of one mark, and anything after them. -/
def ofLine? (line : List Char) : Option Fence :=
  match unindent? line with
  | some (c :: cs) =>
    let size := ((c :: cs).takeWhile (· == c)).length
    if (c == '\x60' || c == '~') && 3 ≤ size then some ⟨c, size⟩ else none
  | _ => none

/-- Does a line close the block? It holds at least as many marks and then gaps only. -/
def closedBy (f : Fence) (line : List Char) : Bool :=
  match unindent? line with
  | some cs =>
    f.size ≤ (cs.takeWhile (· == f.mark)).length && (cs.dropWhile (· == f.mark)).all Text.isGap
  | none => false

end Fence

/-- The first line for which `f` has an answer: the answer, where the line begins and how
long it is, and the lines after it. The first line begins at `offset`. -/
def findLine {α : Type} (f : List Char → Option α) :
    (offset : Nat) → List (List Char) → Option (α × Span × List (List Char))
  | _, [] => none
  | offset, line :: rest =>
    match f line with
    | some a => some (a, ⟨offset, offset + line.length⟩, rest)
    | none => findLine f (offset + line.length + 1) rest

/-- What follows the line that was found is shorter. -/
theorem length_findLine {α : Type} {f : List Char → Option α} {offset : Nat}
    {lines : List (List Char)} {a : α} {s : Span} {rest : List (List Char)}
    (h : findLine f offset lines = some (a, s, rest)) : rest.length < lines.length := by
  induction lines generalizing offset with
  | nil => simp [findLine] at h
  | cons line tail ih =>
    unfold findLine at h
    split at h
    · simp only [Option.some.injEq, Prod.mk.injEq] at h
      simp [← h.2.2]
    · exact Nat.lt_succ_of_lt (ih h)

/-- The first fenced block of lines that begin at `offset`, in a text that ends at `stop`:
the block, where the line after it begins, and the lines from there on. -/
def nextBlock? (stop offset : Nat) (lines : List (List Char)) :
    Option (Span × Nat × List (List Char)) :=
  match findLine Fence.ofLine? offset lines with
  | none => none
  | some (fence, opening, rest) =>
    match findLine (fun line => if fence.closedBy line then some () else none)
        (opening.stop + 1) rest with
    | none => some (⟨opening.start, stop⟩, stop + 1, [])
    | some (_, closing, rest') =>
      some (⟨opening.start, closing.stop⟩, closing.stop + 1, rest')

/-- What follows a block is shorter. -/
theorem length_nextBlock {stop offset next : Nat} {lines rest : List (List Char)} {s : Span}
    (h : nextBlock? stop offset lines = some (s, next, rest)) : rest.length < lines.length := by
  unfold nextBlock? at h
  split at h
  · simp at h
  · rename_i fence opening after hOpening
    have hAfter := length_findLine hOpening
    split at h
    · simp only [Option.some.injEq, Prod.mk.injEq] at h
      simpa [← h.2.2] using Nat.lt_of_le_of_lt (Nat.zero_le _) hAfter
    · rename_i hClosing
      simp only [Option.some.injEq, Prod.mk.injEq] at h
      rw [← h.2.2]
      exact Nat.lt_trans (length_findLine hClosing) hAfter

/-- The fenced blocks of lines that begin at `offset`, in a text that ends at `stop`. -/
def fencedBlocks (stop offset : Nat) (lines : List (List Char)) : List Span :=
  match _h : nextBlock? stop offset lines with
  | none => []
  | some (block, next, rest) => block :: fencedBlocks stop next rest
termination_by lines.length
decreasing_by exact length_nextBlock _h

/-- Is an offset the beginning of a line? -/
def isLineStart (text : List Char) (offset : Nat) : Bool :=
  offset == 0 || text[offset - 1]? == some '\n'

/-- The beginning of the first line that starts at or after an offset. -/
def nextLineStart (text : List Char) (offset : Nat) : Nat :=
  if isLineStart text offset then offset
  else offset + ((text.drop offset).takeWhile (· != '\n')).length + 1

/-- The fenced blocks that begin at or after an offset. -/
def fencedFrom (text : List Char) (offset : Nat) : List Span :=
  let first := nextLineStart text offset
  if first ≤ text.length then fencedBlocks text.length first ((text.drop first).splitOn '\n')
  else []

/-- Is the character a backtick? -/
def isTick (c : Char) : Bool := c == '\x60'

/-- Where the first run of exactly `size` backticks ends. The text begins at `offset`,
after `run` backticks, and a blank line ends the search. -/
def closingRun? (size : Nat) : (run offset : Nat) → List Char → Option Nat
  | run, offset, [] => if run = size then some offset else none
  | run, offset, c :: cs =>
    if isTick c then closingRun? size (run + 1) (offset + 1) cs
    else if run = size then some offset
    else if c == '\n' && Text.startsBlankLine cs then none
    else closingRun? size 0 (offset + 1) cs

/-- Where a code span ends that begins with the run of backticks at `offset`. -/
def spanEnd? (offset : Nat) (cs : List Char) : Option Nat :=
  let size := (cs.takeWhile isTick).length
  if size = 0 then none else closingRun? size 0 (offset + size) (cs.drop size)

/-- The code spans of a text that begins at `offset`. The first `skip` characters belong
to the span before. -/
def codeSpans : (skip offset : Nat) → List Char → List Span
  | _, _, [] => []
  | skip + 1, offset, _ :: cs => codeSpans skip (offset + 1) cs
  | 0, offset, c :: cs =>
    match spanEnd? offset (c :: cs) with
    | some stop => ⟨offset, stop⟩ :: codeSpans (stop - offset - 1) (offset + 1) cs
    | none => codeSpans 0 (offset + 1) cs

/-- The code of a text from an offset on: its fenced blocks, and the code spans that do
not begin inside one. -/
def codeRegions (text : List Char) (offset : Nat) : List Span :=
  let fenced := fencedFrom text offset
  fenced ++ (codeSpans 0 offset (text.drop offset)).filter
    fun s => !Span.anyContains fenced s.start

end Crosslink.Link
