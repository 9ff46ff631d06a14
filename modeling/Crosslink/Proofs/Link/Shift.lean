import Mathlib.Order.Monotone.Basic
import Crosslink.Proofs.Link.Block
import Crosslink.Proofs.Page.Rendering
import Crosslink.Proofs.Text.LineBreak

/-!
# Links behind whole lines

A search that begins where a line begins reads nothing of what is before. So whole lines in front of
a text move its code and its links, by as many characters and lines as they have, and change nothing
else of them.
-/

namespace Crosslink

namespace Text

/-- The span between the images of both ends. -/
def Span.map (f : Nat → Nat) (s : Span) : Span := ⟨f s.start, f s.stop⟩

/-- Offsets that keep their order stay in the spans in which they are. -/
theorem Span.anyContains_map {f : Nat → Nat} (hf : StrictMono f) (spans : List Span)
    (offset : Nat) : anyContains (spans.map (map f)) (f offset) = anyContains spans offset := by
  simp only [anyContains, List.any_map, Function.comp_def, contains, map, hf.le_iff_le,
    hf.lt_iff_lt]

/-- Spans that end at or before an offset do not hold it. -/
theorem Span.anyContains_eq_false_of_stop_le {spans : List Span} {i : Nat}
    (h : ∀ s ∈ spans, s.stop ≤ i) : anyContains spans i = false := by
  rw [Bool.eq_false_iff, Ne, anyContains_iff]
  rintro ⟨s, hs, -, hlt⟩
  exact absurd (h s hs) (Nat.not_le_of_lt hlt)

/-- Spans that begin behind an offset do not hold it. -/
theorem Span.anyContains_eq_false_of_lt_start {spans : List Span} {i : Nat}
    (h : ∀ s ∈ spans, i < s.start) : anyContains spans i = false := by
  rw [Bool.eq_false_iff, Ne, anyContains_iff]
  rintro ⟨s, hs, hle, -⟩
  exact absurd (h s hs) (Nat.not_lt_of_le hle)

theorem Span.anyContains_append (spans more : List Span) (i : Nat) :
    anyContains (spans ++ more) i = (anyContains spans i || anyContains more i) :=
  List.any_append

/-! ## Positions -/

/-- The line of a place is counted by the line feeds before it. -/
theorem Position.line_advance (p : Position) (cs : List Char) :
    (p.advance cs).line = p.line + cs.count '\n' := by
  induction cs generalizing p with
  | nil => rfl
  | cons c cs ih =>
    rw [Position.advance, List.foldl_cons, ← Position.advance, ih]
    by_cases hc : c = '\n'
    · subst hc
      simp
      omega
    · simp [hc]

/-- Where the lines are counted from does not matter for the column. -/
theorem Position.advance_add (n : Nat) (p : Position) (cs : List Char) :
    Position.advance ⟨p.line + n, p.column⟩ cs =
      ⟨(p.advance cs).line + n, (p.advance cs).column⟩ := by
  induction cs generalizing p with
  | nil => rfl
  | cons c cs ih =>
    simp only [Position.advance, List.foldl_cons] at ih ⊢
    split
    · rw [← ih, Nat.add_right_comm]
    · exact ih ⟨p.line, p.column + 1⟩

/-- Behind whole lines a new line begins. -/
theorem WholeLines.advance {lines : List Char} (h : WholeLines lines) :
    Position.advance ⟨1, 1⟩ lines = ⟨1 + lines.count '\n', 1⟩ := by
  rcases h with rfl | hlast
  · rfl
  · obtain ⟨front, rfl⟩ := List.getLast?_eq_some_iff.mp hlast
    have hline := Position.line_advance ⟨1, 1⟩ front
    rw [Position.advance_append, List.count_append, ← Nat.add_assoc, ← hline]
    rfl

/-- Whole lines in front of a text move its places by their number. -/
theorem positionOf_append {lines : List Char} (h : WholeLines lines) (cs : List Char)
    (offset : Nat) : positionOf (lines ++ cs) (lines.length + offset) =
      ⟨(positionOf cs offset).line + lines.count '\n', (positionOf cs offset).column⟩ := by
  rw [positionOf, List.take_length_add_append, Position.advance_append, h.advance]
  exact Position.advance_add _ ⟨1, 1⟩ _

end Text

namespace Link

open Text (Span WholeLines)

/-- The occurrence `k` characters further on. -/
def Occurrence.shift (k : Nat) (o : Occurrence) : Occurrence :=
  { o with start := o.start + k, span := o.span.map (· + k) }

/-- The link `k` characters and `n` lines further on. -/
def shift (k n : Nat) (l : Link) : Link :=
  { l with origin := { l.origin with
      line := l.origin.line.map (· + (n : Int))
      span := l.origin.span.map (Span.map (· + k)) } }

/-! ## Code -/

/-- The fenced blocks of lines depend on the offsets by which they are found only in their place. -/
theorem blocksFrom_shift (k stop : Nat) (opened : Option (Nat × Fence)) (offset : Nat)
    (lines : List (List Char)) :
    blocksFrom (stop + k) (opened.map fun x => (x.1 + k, x.2)) (offset + k) lines =
      (blocksFrom stop opened offset lines).map (Span.map (· + k)) := by
  induction lines generalizing opened offset with
  | nil => cases opened <;> rfl
  | cons line rest ih =>
    have hnext : offset + k + line.length + 1 = offset + line.length + 1 + k := by omega
    cases opened with
    | none =>
      have h := ih ((Fence.ofLine? line).map (offset, ·)) (offset + line.length + 1)
      rw [Option.map_map] at h
      rw [Option.map_none, blocksFrom, blocksFrom, hnext]
      exact h
    | some x =>
      have h := ih (some x) (offset + line.length + 1)
      have h' := ih none (offset + line.length + 1)
      rw [Option.map_some] at h ⊢
      rw [Option.map_none] at h'
      rw [blocksFrom, blocksFrom, hnext]
      split
      · rw [List.map_cons, h', Span.map, Nat.add_right_comm]
      · exact h

/-- The first line of a text begins it. -/
theorem blocks_zero (text : List Char) :
    blocks text 0 = blocksFrom text.length none 0 (text.splitOn '\n') := by
  have hstart : isLineStart text 0 = true := rfl
  rw [blocks, nextLineStart, if_pos hstart]
  simp

theorem closingRun?_shift (k size run offset : Nat) (cs : List Char) :
    closingRun? size run (offset + k) cs = (closingRun? size run offset cs).map (· + k) := by
  induction cs generalizing run offset with
  | nil =>
    rw [closingRun?, closingRun?]
    split <;> rfl
  | cons c cs ih =>
    have hnext : offset + k + 1 = offset + 1 + k := Nat.add_right_comm _ _ _
    rw [closingRun?, closingRun?, hnext, ih, ih]
    split
    · rfl
    split
    · rfl
    split <;> rfl

theorem spanEnd?_shift (k offset : Nat) (cs : List Char) :
    spanEnd? (offset + k) cs = (spanEnd? offset cs).map (· + k) := by
  rw [spanEnd?, spanEnd?]
  split
  · rfl
  · rw [← closingRun?_shift, Nat.add_right_comm]

/-- The code spans of a text depend on the offset at which it begins only in their place. -/
theorem codeSpans_shift (k skip offset : Nat) (cs : List Char) :
    codeSpans skip (offset + k) cs = (codeSpans skip offset cs).map (Span.map (· + k)) := by
  induction cs generalizing skip offset with
  | nil => rw [codeSpans, codeSpans, List.map_nil]
  | cons c cs ih =>
    have hnext : offset + k + 1 = offset + 1 + k := Nat.add_right_comm _ _ _
    cases skip with
    | succ skip => rw [codeSpans, codeSpans, hnext, ih]
    | zero =>
      rw [codeSpans, codeSpans, spanEnd?_shift, hnext]
      cases spanEnd? offset (c :: cs) with
      | none => exact ih _ _
      | some stop =>
        have hskip : stop + k - (offset + k) - 1 = stop - offset - 1 := by omega
        simp only [Option.map_some, hskip, ih, List.map_cons, Span.map]

/-- Behind whole lines the code of a text is the same, further on. -/
theorem codeRegions_append {lines : List Char} (h : WholeLines lines) (cs : List Char) :
    codeRegions (lines ++ cs) lines.length =
      (codeRegions cs 0).map (Span.map (· + lines.length)) := by
  have hstart : isLineStart (lines ++ cs) lines.length = true := by
    rcases h with rfl | hlast
    · rfl
    · obtain ⟨front, rfl⟩ := List.getLast?_eq_some_iff.mp hlast
      simp [isLineStart]
  have hfenced : fencedFrom (lines ++ cs) lines.length =
      (fencedFrom cs 0).map (Span.map (· + lines.length)) := by
    have hshift := blocksFrom_shift lines.length cs.length none 0 (cs.splitOn '\n')
    rw [Option.map_none, Nat.zero_add] at hshift
    have hlength : lines.length ≤ (lines ++ cs).length := by simp
    rw [fencedFrom_eq_blocks, fencedFrom_eq_blocks, blocks, blocks, nextLineStart, if_pos hstart,
      nextLineStart, if_pos (show isLineStart cs 0 = true from rfl)]
    simp only [hlength, Nat.zero_le, if_true, List.drop_left, List.drop_zero]
    rw [← hshift, List.length_append, Nat.add_comm]
  have hspans := codeSpans_shift lines.length 0 0 cs
  rw [Nat.zero_add] at hspans
  have hmono : StrictMono (· + lines.length) := fun i j h => Nat.add_lt_add_right h _
  simp only [codeRegions, hfenced, List.drop_left, List.drop_zero, hspans, List.map_append,
    List.filter_map]
  congr 3
  funext s
  exact congrArg (!·) (Span.anyContains_map hmono _ s.start)

/-! ## Links -/

theorem occurrenceAt?_shift (k offset : Nat) (cs : List Char) :
    occurrenceAt? (offset + k) cs = (occurrenceAt? offset cs).map (Occurrence.shift k) := by
  unfold occurrenceAt?
  split
  · split
    · split
      · simp only [Option.map_some, Occurrence.shift, Span.map, Option.some.injEq,
          Occurrence.mk.injEq, Span.mk.injEq, true_and]
        omega
      · rfl
    · rfl
  · rfl

/-- The links of a text depend on the offset at which it begins only in their place. -/
theorem occurrencesFrom_shift (k skip : Nat) (before : Option Char) (offset : Nat)
    (cs : List Char) : occurrencesFrom skip before (offset + k) cs =
      (occurrencesFrom skip before offset cs).map (Occurrence.shift k) := by
  induction cs generalizing skip before offset with
  | nil => rw [occurrencesFrom, occurrencesFrom, List.map_nil]
  | cons c cs ih =>
    have hnext : offset + k + 1 = offset + 1 + k := Nat.add_right_comm _ _ _
    cases skip with
    | succ skip => rw [occurrencesFrom, occurrencesFrom, hnext, ih]
    | zero =>
      have hfound : (if guards before then none else occurrenceAt? (offset + k) (c :: cs)) =
          (if guards before then none else occurrenceAt? offset (c :: cs)).map
            (Occurrence.shift k) := by
        rw [occurrenceAt?_shift]
        split <;> rfl
      rw [occurrencesFrom, occurrencesFrom, hfound, hnext]
      cases if guards before then none else occurrenceAt? offset (c :: cs) with
      | none => exact ih _ _ _
      | some o =>
        have hskip : (o.shift k).span.stop - (offset + k) - 1 = o.span.stop - offset - 1 := by
          simp only [Occurrence.shift, Span.map]
          omega
        simp only [Option.map_some, hskip, ih, List.map_cons]

/-- What guards an opening bracket is no line feed. -/
theorem occurrencesFrom_wholeLines {lines : List Char} (h : WholeLines lines) (skip offset : Nat)
    (cs : List Char) : occurrencesFrom skip lines.getLast? offset cs =
      occurrencesFrom skip none offset cs := by
  rcases h with rfl | hlast
  · rfl
  · rw [hlast]
    cases cs with
    | nil => cases skip <;> rfl
    | cons c cs => cases skip <;> rfl

/-- A link behind whole lines is the one of the text without them, further on. -/
theorem ofOccurrence_append {lines : List Char} (h : WholeLines lines) (cs : List Char)
    (o : Occurrence) : ofOccurrence (lines ++ cs) (o.shift lines.length) =
      (ofOccurrence cs o).shift lines.length (lines.count '\n') := by
  have hplace := Text.positionOf_append h cs o.start
  rw [Nat.add_comm] at hplace
  simp only [ofOccurrence, ofOrigin, shift, Occurrence.shift, hplace, Option.map_some,
    Int.natCast_add]

/-- The links of a text that is searched behind whole lines are the links of the text, further
on. -/
theorem find_append_wholeLines {lines : List Char} (h : WholeLines lines) (cs : List Char) :
    find (lines ++ cs) lines.length =
      (find cs 0).map (shift lines.length (lines.count '\n')) := by
  have hmono : StrictMono (· + lines.length) := fun i j h => Nat.add_lt_add_right h _
  have hoccur : occurrences (lines ++ cs) lines.length =
      (occurrences cs 0).map (Occurrence.shift lines.length) := by
    have hshift := occurrencesFrom_shift lines.length 0 none 0 cs
    rw [Nat.zero_add] at hshift
    rw [occurrences_append, occurrencesFrom_wholeLines h, hshift]
    rfl
  simp only [find, codeRegions_append h, hoccur, List.filter_map, List.map_map]
  congr 1
  · funext o
    exact ofOccurrence_append h cs o
  · congr 1
    funext o
    exact congrArg (!·) (Span.anyContains_map hmono _ o.start)

end Link

end Crosslink
