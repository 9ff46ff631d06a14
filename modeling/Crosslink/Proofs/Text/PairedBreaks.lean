import Mathlib.Order.Monotone.Basic
import Crosslink.Proofs.Text.LineBreak

/-!
# Paired line breaks

A text may have a carriage return before each of its line feeds. Every offset of the text without
them has a place in the text with them; lines and columns are the same, and the lines are the same
but for the carriage returns at their ends.
-/

namespace Crosslink.Text

/-- The text with a carriage return before each line feed. -/
def pairBreaks (cs : List Char) : List Char :=
  cs.flatMap fun c => if c = '\n' then ['\r', '\n'] else [c]

@[simp] theorem pairBreaks_nil : pairBreaks [] = [] := rfl

@[simp] theorem pairBreaks_feed (cs : List Char) :
    pairBreaks ('\n' :: cs) = '\r' :: '\n' :: pairBreaks cs := rfl

theorem pairBreaks_cons {c : Char} (h : c ≠ '\n') (cs : List Char) :
    pairBreaks (c :: cs) = c :: pairBreaks cs := by
  rw [pairBreaks, List.flatMap_cons, if_neg h]
  rfl

theorem pairBreaks_append (cs ds : List Char) :
    pairBreaks (cs ++ ds) = pairBreaks cs ++ pairBreaks ds :=
  List.flatMap_append

theorem pairBreaks_of_not_mem {cs : List Char} (h : '\n' ∉ cs) : pairBreaks cs = cs := by
  induction cs with
  | nil => rfl
  | cons c cs ih =>
    have hc : c ≠ '\n' := fun he => h (he ▸ List.mem_cons_self)
    rw [pairBreaks_cons hc, ih fun hmem => h (List.mem_cons_of_mem c hmem)]

theorem length_pairBreaks (cs : List Char) :
    (pairBreaks cs).length = cs.length + cs.count '\n' := by
  induction cs with
  | nil => rfl
  | cons c cs ih =>
    by_cases hc : c = '\n'
    · subst hc
      simp [ih]
      omega
    · simp [pairBreaks_cons hc, ih, hc]
      omega

/-- The breaks are paired for nothing but to be joined. -/
theorem joinBreaks_pairBreaks {cs : List Char} (h : '\r' ∉ cs) :
    joinBreaks (pairBreaks cs) = cs := by
  induction cs with
  | nil => rfl
  | cons c cs ih =>
    have htail := ih fun hmem => h (List.mem_cons_of_mem c hmem)
    by_cases hc : c = '\n'
    · rw [hc, pairBreaks_feed, joinBreaks, htail]
    · have hreturn : c ≠ '\r' := fun he => h (he ▸ List.mem_cons_self)
      rw [pairBreaks_cons hc, joinBreaks_cons hreturn, htail]

theorem startsBlankLine_gap {c : Char} (h : isGap c = true) (cs : List Char) :
    startsBlankLine (c :: cs) = startsBlankLine cs := by
  rw [startsBlankLine, startsBlankLine, List.dropWhile_cons_of_pos h]

/-- Whether a line is blank does not depend on how it ends. -/
theorem startsBlankLine_pairBreaks {cs : List Char} (h : '\r' ∉ cs) :
    startsBlankLine (pairBreaks cs) = startsBlankLine cs := by
  induction cs with
  | nil => rfl
  | cons c cs ih =>
    have htail := ih fun hmem => h (List.mem_cons_of_mem c hmem)
    by_cases hc : c = '\n'
    · subst hc
      rfl
    have hreturn : c ≠ '\r' := fun he => h (he ▸ List.mem_cons_self)
    rw [pairBreaks_cons hc]
    cases hgap : isGap c with
    | true => rw [startsBlankLine_gap hgap, startsBlankLine_gap hgap, htail]
    | false => simp [startsBlankLine, hgap, hc, hreturn]

/-! ## Places -/

/-- Where an offset of a text lies when the breaks are paired. -/
def place (text : List Char) (offset : Nat) : Nat := offset + (text.take offset).count '\n'

theorem strictMono_place (text : List Char) : StrictMono (place text) := by
  intro i j hij
  have htake : text.take i = (text.take j).take i := by
    rw [List.take_take, Nat.min_eq_left (Nat.le_of_lt hij)]
  have hcount := (List.take_sublist i (text.take j)).count_le '\n'
  rw [← htake] at hcount
  exact Nat.add_lt_add_of_lt_of_le hij hcount

/-- What is behind some characters lies behind them when the breaks are paired. -/
theorem place_append (cs ds : List Char) : place (cs ++ ds) cs.length = (pairBreaks cs).length := by
  rw [place, List.take_left, length_pairBreaks]

/-- From one offset to a later one it is as far as the characters between them are long when their
breaks are paired. -/
theorem place_add (pre cs rest : List Char) :
    place (pre ++ (cs ++ rest)) (pre.length + cs.length) =
      place (pre ++ (cs ++ rest)) pre.length + (pairBreaks cs).length := by
  have hnext := place_append (pre ++ cs) rest
  rw [List.append_assoc, List.length_append, pairBreaks_append, List.length_append] at hnext
  rw [hnext, place_append]

theorem place_succ (pre : List Char) (c : Char) (cs : List Char) :
    place (pre ++ c :: cs) (pre.length + 1) =
      place (pre ++ c :: cs) pre.length + (pairBreaks [c]).length :=
  place_add pre [c] cs

/-- A pair of characters ends a line as one does. -/
theorem Position.advance_pairBreaks (p : Position) (cs : List Char) :
    p.advance (pairBreaks cs) = p.advance cs := by
  induction cs generalizing p with
  | nil => rfl
  | cons c cs ih =>
    by_cases hc : c = '\n'
    · subst hc
      exact ih ⟨p.line + 1, 1⟩
    · rw [pairBreaks_cons hc]
      exact ih _

theorem positionOf_pairBreaks (cs ds : List Char) :
    positionOf (pairBreaks (cs ++ ds)) (place (cs ++ ds) cs.length) =
      positionOf (cs ++ ds) cs.length := by
  rw [positionOf, positionOf, place_append, pairBreaks_append, List.take_left, List.take_left,
    Position.advance_pairBreaks]

/-! ## Lines -/

/-- The lines with a carriage return at the end of each but the last. -/
def returnLines : List (List Char) → List (List Char)
  | [] => []
  | [line] => [line]
  | line :: rest => (line ++ ['\r']) :: returnLines rest

theorem returnLines_cons_cons (line next : List Char) (rest : List (List Char)) :
    returnLines (line :: next :: rest) = (line ++ ['\r']) :: returnLines (next :: rest) := rfl

theorem splitOn_pairBreaks (cs : List Char) :
    (pairBreaks cs).splitOn '\n' = returnLines (cs.splitOn '\n') := by
  induction cs with
  | nil => rfl
  | cons c cs ih =>
    obtain ⟨line, rest, hlines⟩ := List.exists_cons_of_ne_nil (List.splitOn_ne_nil '\n' cs)
    rw [List.splitOn_cons_eq_if_modifyHead]
    by_cases hc : c = '\n'
    · subst hc
      rw [pairBreaks_feed, List.splitOn_cons_eq_if_modifyHead, List.splitOn_cons_eq_if_modifyHead,
        ih, hlines]
      rfl
    · have hne : ¬ (c == '\n') = true := by simpa using hc
      rw [pairBreaks_cons hc, List.splitOn_cons_eq_if_modifyHead, if_neg hne, if_neg hne, ih,
        hlines]
      cases rest <;> rfl

end Crosslink.Text
