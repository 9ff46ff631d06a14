import Crosslink.Link.Code
import Crosslink.Proofs.Text.Run

/-!
# Fenced blocks line by line

The fenced blocks of a text are found by looking for the line that opens the next block and for the
line that closes it. A scanner that goes from line to line, and knows whether a block is open, finds
the same blocks. From the scanner it is read off that a block begins where a line begins.
-/

namespace Crosslink.Link

open Text (Span)

/-- The fenced blocks of lines that begin at `offset`, in a text that ends at `stop`, found line by
line. A block that is open began at an offset with a fence. -/
def blocksFrom (stop : Nat) :
    (opened : Option (Nat × Fence)) → (offset : Nat) → List (List Char) → List Span
  | none, _, [] => []
  | some (start, _), _, [] => [⟨start, stop⟩]
  | none, offset, line :: rest =>
    blocksFrom stop ((Fence.ofLine? line).map (offset, ·)) (offset + line.length + 1) rest
  | some (start, fence), offset, line :: rest =>
    if fence.closedBy line then
      ⟨start, offset + line.length⟩ :: blocksFrom stop none (offset + line.length + 1) rest
    else blocksFrom stop (some (start, fence)) (offset + line.length + 1) rest

/-- Outside, the scanner goes on to the line that opens the next block. -/
theorem blocksFrom_none (stop offset : Nat) (lines : List (List Char)) :
    blocksFrom stop none offset lines = match findLine Fence.ofLine? offset lines with
      | none => []
      | some (fence, opening, rest) =>
        blocksFrom stop (some (opening.start, fence)) (opening.stop + 1) rest := by
  induction lines generalizing offset with
  | nil => rfl
  | cons line rest ih =>
    rw [blocksFrom, findLine]
    cases Fence.ofLine? line with
    | none => exact ih _
    | some fence => rfl

/-- Inside, the scanner goes on to the line that closes the block. -/
theorem blocksFrom_some (stop start : Nat) (fence : Fence) (offset : Nat)
    (lines : List (List Char)) :
    blocksFrom stop (some (start, fence)) offset lines =
      match findLine (fun line => if fence.closedBy line then some () else none) offset lines with
      | none => [⟨start, stop⟩]
      | some (_, closing, rest) =>
        ⟨start, closing.stop⟩ :: blocksFrom stop none (closing.stop + 1) rest := by
  induction lines generalizing offset with
  | nil => rfl
  | cons line rest ih =>
    rw [blocksFrom, findLine]
    by_cases hclosed : fence.closedBy line = true
    · simp only [if_pos hclosed]
    · simp only [if_neg hclosed]
      exact ih _

/-- The next block that is found is the next one of the scanner. -/
theorem blocksFrom_eq_nextBlock? (stop offset : Nat) (lines : List (List Char)) :
    blocksFrom stop none offset lines = match nextBlock? stop offset lines with
      | none => []
      | some (block, next, rest) => block :: blocksFrom stop none next rest := by
  rw [blocksFrom_none, nextBlock?]
  rcases findLine Fence.ofLine? offset lines with _ | ⟨fence, opening, rest⟩
  · rfl
  · simp only [blocksFrom_some]
    rcases findLine (fun line => if fence.closedBy line then some () else none)
      (opening.stop + 1) rest with _ | ⟨_, closing, rest'⟩ <;> rfl

/-- The scanner finds the fenced blocks. -/
theorem fencedBlocks_eq_blocksFrom (stop offset : Nat) (lines : List (List Char)) :
    fencedBlocks stop offset lines = blocksFrom stop none offset lines := by
  fun_induction fencedBlocks stop offset lines with
  | case1 offset lines hnone => rw [blocksFrom_eq_nextBlock?, hnone]
  | case2 offset lines block next rest hnext ih => rw [blocksFrom_eq_nextBlock?, hnext, ih]

/-! ## Places of blocks -/

/-- The lines of a text, each with its line feed, make up the text with a last line feed. -/
theorem flatMap_splitOn (cs : List Char) :
    (cs.splitOn '\n').flatMap (· ++ ['\n']) = cs ++ ['\n'] := by
  induction cs with
  | nil => rfl
  | cons c cs ih =>
    rw [List.splitOn_cons_eq_if_modifyHead]
    by_cases hc : (c == '\n') = true
    · obtain rfl := eq_of_beq hc
      rw [if_pos hc, List.flatMap_cons, ih]
      rfl
    · rw [if_neg hc]
      rcases hlines : cs.splitOn '\n' with _ | ⟨line, rest⟩
      · exact absurd hlines (List.splitOn_ne_nil _ _)
      · rw [hlines, List.flatMap_cons] at ih
        rw [List.modifyHead_cons, List.flatMap_cons, List.cons_append, List.cons_append, ih,
          List.cons_append]

/-- A line that opens a block is not empty. -/
theorem Fence.ne_nil_of_ofLine? {line : List Char} {fence : Fence}
    (h : ofLine? line = some fence) : line ≠ [] := by
  rintro rfl
  cases h

variable {text : List Char}

/-- The lines at an offset are those of the text, and the offset is where a line begins. -/
structure LinesAt (text : List Char) (offset : Nat) (lines : List (List Char)) : Prop where
  written : ∃ before, text ++ ['\n'] = before ++ lines.flatMap (· ++ ['\n']) ∧
    before.length = offset
  begins : lines ≠ [] → isLineStart text offset = true

/-- A line of a text ends in the text, and the next ones begin behind its line feed. -/
theorem LinesAt.next {offset : Nat} {line : List Char} {rest : List (List Char)}
    (h : LinesAt text offset (line :: rest)) :
    offset + line.length ≤ text.length ∧ LinesAt text (offset + line.length + 1) rest := by
  obtain ⟨before, hwritten, rfl⟩ := h.written
  rw [List.flatMap_cons] at hwritten
  have hlength := congrArg List.length hwritten
  simp only [List.length_append, List.length_singleton] at hlength
  refine ⟨by omega, ⟨before ++ (line ++ ['\n']), ?_, by simp; omega⟩, fun hrest => ?_⟩
  · simpa using hwritten
  · -- the line feed before the next line is not the one that was added to the text
    obtain ⟨next, later, rfl⟩ := List.exists_cons_of_ne_nil hrest
    simp only [List.flatMap_cons, List.length_append, List.length_singleton] at hlength
    have hfeed : text[before.length + line.length]? = some '\n' := by
      have hget := congrArg (·[before.length + line.length]?) hwritten
      rw [List.getElem?_append_left (by omega)] at hget
      rw [hget]
      simp
    simp [isLineStart, hfeed]

/-- The lines of the rest of a text at the beginning of a line. -/
theorem linesAt_splitOn {offset : Nat} (hoffset : offset ≤ text.length)
    (hstart : isLineStart text offset = true) :
    LinesAt text offset ((text.drop offset).splitOn '\n') := by
  refine ⟨⟨text.take offset, ?_, List.length_take_of_le hoffset⟩, fun _ => hstart⟩
  rw [flatMap_splitOn, ← List.append_assoc, List.take_append_drop]

/-- Where a fenced block may lie: it begins where a line begins, and it is not empty. -/
structure BlockOf (text : List Char) (b : Span) : Prop where
  begins : isLineStart text b.start = true
  nonempty : b.start < b.stop
  stop_le : b.stop ≤ text.length

/-- Every block that the scanner finds begins where a line begins. -/
theorem blockOf_of_mem_blocksFrom {offset : Nat} {lines : List (List Char)}
    (hlines : LinesAt text offset lines) {opened : Option (Nat × Fence)}
    (hopened : ∀ x ∈ opened, isLineStart text x.1 = true ∧ x.1 < offset ∧ x.1 < text.length)
    {b : Span} (hb : b ∈ blocksFrom text.length opened offset lines) : BlockOf text b := by
  induction lines generalizing offset opened with
  | nil =>
    cases opened with
    | none => cases hb
    | some x =>
      obtain ⟨hbegins, -, hlength⟩ := hopened x rfl
      obtain rfl := List.mem_singleton.mp hb
      exact ⟨hbegins, hlength, Nat.le_refl _⟩
  | cons line rest ih =>
    obtain ⟨hstop, hnext⟩ := hlines.next
    cases opened with
    | none =>
      refine ih hnext (fun x hx => ?_) hb
      obtain ⟨fence, hfence, rfl⟩ := Option.map_eq_some_iff.mp hx
      have hline := List.length_pos_iff.mpr (Fence.ne_nil_of_ofLine? hfence)
      exact ⟨hlines.begins (List.cons_ne_nil _ _), by simp only; omega, by simp only; omega⟩
    | some x =>
      obtain ⟨hbegins, hoffset, hlength⟩ := hopened x rfl
      have hlater : ∀ y ∈ some x, isLineStart text y.1 = true ∧
          y.1 < offset + line.length + 1 ∧ y.1 < text.length := by
        rintro y ⟨⟩
        exact ⟨hbegins, by omega, hlength⟩
      rw [blocksFrom] at hb
      split at hb
      · rcases List.mem_cons.mp hb with rfl | hb
        · exact ⟨hbegins, by simp only; omega, hstop⟩
        · exact ih hnext (by simp) hb
      · exact ih hnext hlater hb

/-- A line that ends within a text is followed by a line feed. -/
theorem getElem?_end_of_line {start : Nat}
    (h : start + ((text.drop start).takeWhile (· != '\n')).length < text.length) :
    text[start + ((text.drop start).takeWhile (· != '\n')).length]? = some '\n' := by
  obtain ⟨hwritten, -, hend⟩ := Text.run_takeWhile (· != '\n') (text.drop start)
  have hlength := congrArg List.length hwritten
  rw [List.length_drop, List.length_append] at hlength
  obtain ⟨c, rest, hrest⟩ : ∃ c rest, (text.drop start).dropWhile (· != '\n') = c :: rest :=
    List.exists_cons_of_length_pos (by omega)
  rw [hrest] at hwritten hend
  obtain rfl : c = '\n' := by simpa using hend c rfl
  generalize (text.drop start).takeWhile (· != '\n') = line at hwritten ⊢
  rw [← List.getElem?_drop, hwritten]
  simp

/-- The next line begins where a line begins. -/
theorem isLineStart_nextLineStart {offset : Nat}
    (h : nextLineStart text offset ≤ text.length) :
    isLineStart text (nextLineStart text offset) = true := by
  rw [nextLineStart] at h ⊢
  split
  · assumption
  · rename_i hstart
    rw [if_neg hstart] at h
    simp [isLineStart, getElem?_end_of_line h]

/-- The fenced blocks of a text from an offset on, found line by line. -/
def blocks (text : List Char) (offset : Nat) : List Span :=
  let first := nextLineStart text offset
  if first ≤ text.length then blocksFrom text.length none first ((text.drop first).splitOn '\n')
  else []

theorem fencedFrom_eq_blocks (text : List Char) (offset : Nat) :
    fencedFrom text offset = blocks text offset := by
  rw [fencedFrom, blocks, fencedBlocks_eq_blocksFrom]

/-- Every fenced block of a text begins where a line begins. -/
theorem blockOf_of_mem_blocks {offset : Nat} {b : Span} (hb : b ∈ blocks text offset) :
    BlockOf text b := by
  rw [blocks] at hb
  split at hb
  · rename_i hfirst
    exact blockOf_of_mem_blocksFrom
      (linesAt_splitOn hfirst (isLineStart_nextLineStart hfirst)) (by simp) hb
  · cases hb

end Crosslink.Link
