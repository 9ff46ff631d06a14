/-!
# Blank characters

White space in links, titles, settings and front matter is the Unicode set together
with the four information separators. Trimming removes a maximal run of such
characters from either end and nothing else.
-/

namespace Crosslink.Text

/-- White space of Unicode, and the information separators `U+001C` to `U+001F`. -/
def isBlank (c : Char) : Bool :=
  let n := c.toNat
  (9 ≤ n && n ≤ 13) || (28 ≤ n && n ≤ 32) || n == 0x85 || n == 0xA0 || n == 0x1680
    || (0x2000 ≤ n && n ≤ 0x200A) || n == 0x2028 || n == 0x2029 || n == 0x202F
    || n == 0x205F || n == 0x3000

/-- The two blanks that may stand inside a line of markup. -/
def isGap (c : Char) : Bool := c == ' ' || c == '\t'

/-- Every white-space character of the ASCII class is blank. -/
theorem isBlank_of_isWhitespace {c : Char} (h : c.isWhitespace = true) : isBlank c = true := by
  simp only [Char.isWhitespace, Bool.or_eq_true, decide_eq_true_eq] at h
  rcases h with ((rfl | rfl) | rfl) | rfl <;> decide

/-- Drop the longest run at the end whose characters all satisfy `p`. -/
def dropEndWhile (p : Char → Bool) (cs : List Char) : List Char :=
  (cs.reverse.dropWhile p).reverse

/-- Remove blanks at the front. -/
def trimStart (cs : List Char) : List Char := cs.dropWhile isBlank

/-- Remove blanks at the end. -/
def trimEnd (cs : List Char) : List Char := dropEndWhile isBlank cs

/-- Remove blanks at both ends. -/
def trim (cs : List Char) : List Char := trimEnd (trimStart cs)

/-- Remove blanks at both ends of a string. -/
def trimString (s : String) : String := String.ofList (trim s.toList)

/-- Remove every leading copy of `c`. -/
def stripStart (c : Char) (s : String) : String := String.ofList (s.toList.dropWhile (· == c))

/-- Remove every trailing copy of `c`. -/
def stripEnd (c : Char) (s : String) : String := String.ofList (dropEndWhile (· == c) s.toList)

/-- Remove every leading and trailing copy of `c`. -/
def strip (c : Char) (s : String) : String := stripEnd c (stripStart c s)

/-- Does the text begin with a line that holds only gaps and a line feed? -/
def startsBlankLine (cs : List Char) : Bool :=
  match cs.dropWhile isGap with
  | '\n' :: _ => true
  | '\r' :: '\n' :: _ => true
  | _ => false

@[simp] theorem dropEndWhile_nil (p : Char → Bool) : dropEndWhile p [] = [] := rfl

/-- What is dropped from the end is a run of characters that satisfy the test. -/
theorem exists_append_dropEndWhile (p : Char → Bool) (cs : List Char) :
    ∃ run, cs = dropEndWhile p cs ++ run ∧ ∀ c ∈ run, p c = true := by
  refine ⟨(cs.reverse.takeWhile p).reverse, ?_, ?_⟩
  · rw [dropEndWhile, ← List.reverse_append, List.takeWhile_append_dropWhile, List.reverse_reverse]
  · intro c hc
    exact List.all_eq_true.mp List.all_takeWhile c (List.mem_reverse.mp hc)

end Crosslink.Text
