/-!
# Spans

Half-open ranges of offsets in a text, counted in code points.
-/

namespace Crosslink.Text

/-- The offsets from `start` up to, but not including, `stop`. -/
structure Span where
  start : Nat
  stop : Nat
  deriving DecidableEq, Repr

namespace Span

/-- Does an offset lie in the span? -/
def contains (s : Span) (offset : Nat) : Bool := s.start ≤ offset && offset < s.stop

/-- Does an offset lie in one of the spans? -/
def anyContains (spans : List Span) (offset : Nat) : Bool := spans.any (·.contains offset)

/-- The part of a text that a span covers. -/
def slice (s : Span) (cs : List Char) : List Char := (cs.drop s.start).take (s.stop - s.start)

theorem contains_iff {s : Span} {offset : Nat} :
    s.contains offset = true ↔ s.start ≤ offset ∧ offset < s.stop := by
  simp [contains]

theorem anyContains_iff {spans : List Span} {offset : Nat} :
    anyContains spans offset = true ↔ ∃ s ∈ spans, s.start ≤ offset ∧ offset < s.stop := by
  simp [anyContains, contains]

/-- A slice is no longer than its span. -/
theorem length_slice_le (s : Span) (cs : List Char) :
    (s.slice cs).length ≤ s.stop - s.start := by
  rw [slice, List.length_take]
  exact Nat.min_le_left _ _

end Span

end Crosslink.Text
