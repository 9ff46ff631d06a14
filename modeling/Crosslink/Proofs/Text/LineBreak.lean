import Mathlib.Data.List.TakeWhile
import Crosslink.Text.Blank
import Crosslink.Text.LineBreak

/-!
# Lines of a text

How line breaks are unified and joined, piece by piece, and what of a text that is made of whole
lines is left when blanks are dropped.
-/

namespace Crosslink.Text

/-- No carriage return is left when line breaks are unified. -/
theorem not_mem_unifyBreaks (cs : List Char) : '\r' ∉ unifyBreaks cs := by
  fun_induction unifyBreaks cs with
  | case1 => simp
  | case2 cs ih => simpa using ih
  | case3 cs _ ih => simpa using ih
  | case4 c cs hpair hsingle ih =>
    have hc : c ≠ '\r' := fun e => hsingle e
    simpa [hc.symm] using ih

/-- The text is made of whole lines. -/
def WholeLines (cs : List Char) : Prop := cs = [] ∨ cs.getLast? = some '\n'

instance (cs : List Char) : Decidable (WholeLines cs) :=
  inferInstanceAs (Decidable (cs = [] ∨ cs.getLast? = some '\n'))

variable {cs ds : List Char}

theorem joinBreaks_cons {c : Char} (h : c ≠ '\r') (cs : List Char) :
    joinBreaks (c :: cs) = c :: joinBreaks cs := by
  rw [joinBreaks]
  intro rest he
  exact absurd he h

theorem joinBreaks_of_not_mem (h : '\r' ∉ cs) : joinBreaks cs = cs := by
  induction cs with
  | nil => rfl
  | cons c cs ih =>
    have hc : c ≠ '\r' := fun e => h (e ▸ List.mem_cons_self)
    rw [joinBreaks_cons hc, ih fun hmem => h (List.mem_cons_of_mem _ hmem)]

/-- Line breaks are joined piece by piece, unless a pair is cut in two. -/
theorem joinBreaks_append (h : cs.getLast? ≠ some '\r') (ds : List Char) :
    joinBreaks (cs ++ ds) = joinBreaks cs ++ joinBreaks ds := by
  fun_induction joinBreaks cs with
  | case1 => rfl
  | case2 cs ih =>
    rcases cs with _ | ⟨c, cs⟩
    · rfl
    · rw [List.cons_append, List.cons_append, joinBreaks, ih (by simpa using h)]
      rfl
  | case3 c cs hpair ih =>
    rcases cs with _ | ⟨d, cs⟩
    · have hc : c ≠ '\r' := by simpa using h
      rw [List.singleton_append, joinBreaks_cons hc]
      rfl
    · rw [List.cons_append, joinBreaks, ih (by simpa using h)]
      · rfl
      · rintro rest rfl he
        cases he
        exact hpair _ rfl rfl

theorem WholeLines.getLast?_ne (h : WholeLines cs) : cs.getLast? ≠ some '\r' := by
  rcases h with rfl | h
  · simp
  · rw [h]
    decide

theorem getLast?_joinBreaks (h : cs.getLast? = some '\n') :
    (joinBreaks cs).getLast? = some '\n' := by
  fun_induction joinBreaks cs with
  | case1 => cases h
  | case2 cs ih =>
    rcases cs with _ | ⟨c, cs⟩
    · rfl
    · have hlast := ih (by simpa using h)
      rw [List.getLast?_cons, hlast]
      rfl
  | case3 c cs hpair ih =>
    rcases cs with _ | ⟨d, cs⟩
    · have hc : c = '\n' := by simpa using h
      rw [hc]
      rfl
    · have hlast := ih (by simpa using h)
      rw [List.getLast?_cons, hlast]
      rfl

/-- Whole lines stay whole lines when their breaks are joined. -/
theorem WholeLines.joinBreaks (h : WholeLines cs) : WholeLines (joinBreaks cs) := by
  rcases h with rfl | h
  · exact .inl rfl
  · exact .inr (getLast?_joinBreaks h)

/-- A run at the front is found before the first character that does not belong to it. -/
theorem takeWhile_append_cons {p : Char → Bool} {c : Char} (h : p c = false) (cs ds : List Char) :
    (cs ++ c :: ds).takeWhile p = cs.takeWhile p ∧
      (cs ++ c :: ds).dropWhile p = cs.dropWhile p ++ c :: ds := by
  induction cs with
  | nil => simp [h]
  | cons d cs ih => cases hd : p d <;> simp [hd, ih]

/-- A run at the front does not get shorter when the text goes on. -/
theorem takeWhile_subset_append (p : Char → Bool) (cs ds : List Char) :
    cs.takeWhile p ⊆ (cs ++ ds).takeWhile p := by
  rw [List.takeWhile_append]
  split
  · exact List.subset_append_of_subset_left _ (List.takeWhile_prefix p).subset
  · exact List.Subset.refl _

/-- What stands before a character that is kept is kept when the end is dropped. -/
theorem dropEndWhile_append_cons {drop : Char → Bool} {c : Char} (h : drop c = false)
    (cs ds : List Char) : dropEndWhile drop (cs ++ c :: ds) = cs ++ c :: dropEndWhile drop ds := by
  have hrev : (cs ++ c :: ds).reverse = ds.reverse ++ c :: cs.reverse := by simp
  rw [dropEndWhile, hrev, (takeWhile_append_cons h _ _).2, dropEndWhile]
  simp

/-- The first character that is not blank is the same when line breaks are joined. -/
theorem head?_trimStart_joinBreaks (cs : List Char) :
    (trimStart (joinBreaks cs)).head? = (trimStart cs).head? := by
  fun_induction joinBreaks cs with
  | case1 => rfl
  | case2 cs ih =>
    have hreturn : isBlank '\r' = true := by decide
    have hfeed : isBlank '\n' = true := by decide
    rw [trimStart, trimStart, List.dropWhile_cons_of_pos hfeed, List.dropWhile_cons_of_pos hreturn,
      List.dropWhile_cons_of_pos hfeed]
    exact ih
  | case3 c cs hpair ih =>
    cases hc : isBlank c with
    | true =>
      rw [trimStart, trimStart, List.dropWhile_cons_of_pos hc, List.dropWhile_cons_of_pos hc]
      exact ih
    | false =>
      rw [trimStart, trimStart, List.dropWhile_cons_of_neg (by simp [hc]),
        List.dropWhile_cons_of_neg (by simp [hc])]
      rfl

/-- A text begins as without the blanks at its end, once it begins with no blank. -/
theorem head?_trim (cs : List Char) : (trim cs).head? = (trimStart cs).head? := by
  have hhead := List.head?_dropWhile_not isBlank cs
  rw [← trimStart] at hhead
  rw [trim]
  rcases hcs : trimStart cs with _ | ⟨c, rest⟩
  · rfl
  · have hc : isBlank c = false := by simpa [hcs] using hhead
    rw [trimEnd, show c :: rest = [] ++ c :: rest from rfl, dropEndWhile_append_cons hc]
    rfl

/-! ## Blank lines at the front -/

/-- What follows the last line feed. -/
def lastLine (cs : List Char) : List Char := (cs.reverse.takeWhile (· != '\n')).reverse

/-- The text without the blank lines at its front. -/
def dropBlankLines (cs : List Char) : List Char :=
  lastLine (cs.takeWhile isBlank) ++ cs.dropWhile isBlank

theorem lastLine_of_not_mem (h : '\n' ∉ cs) : lastLine cs = cs := by
  rw [lastLine, List.takeWhile_eq_self_iff.mpr, List.reverse_reverse]
  intro c hc
  have hne : c ≠ '\n' := fun e => h (e ▸ List.mem_reverse.mp hc)
  simpa using hne

/-- The last line is not among whole lines. -/
theorem lastLine_append (h : WholeLines cs) (ds : List Char) :
    lastLine (cs ++ ds) = lastLine ds := by
  rcases h with rfl | h
  · rfl
  obtain ⟨front, rfl⟩ := List.getLast?_eq_some_iff.mp h
  have hrev : (front ++ ['\n'] ++ ds).reverse = ds.reverse ++ '\n' :: front.reverse := by simp
  rw [lastLine, hrev, (takeWhile_append_cons (by decide) _ _).1, lastLine]

/-- Everything up to the last line feed is whole lines. -/
theorem exists_wholeLines_lastLine (cs : List Char) :
    ∃ lines, WholeLines lines ∧ cs = lines ++ lastLine cs ∧ '\n' ∉ lastLine cs := by
  refine ⟨(cs.reverse.dropWhile (· != '\n')).reverse, ?_, ?_, fun hmem => ?_⟩
  · rcases hrest : cs.reverse.dropWhile (· != '\n') with _ | ⟨c, rest⟩
    · exact .inl rfl
    · have hhead := List.head?_dropWhile_not (· != '\n') cs.reverse
      rw [hrest] at hhead
      have hc : c = '\n' := by simpa using hhead
      exact .inr (by simp [hc])
  · rw [lastLine, ← List.reverse_append, List.takeWhile_append_dropWhile, List.reverse_reverse]
  · have hne := List.mem_takeWhile_imp (List.mem_reverse.mp hmem)
    simp at hne

/-- Blank lines at the front are whole lines of blanks, and no other blank line is at the front
of what follows them. -/
theorem exists_append_dropBlankLines (cs : List Char) :
    ∃ lines, WholeLines lines ∧ (∀ c ∈ lines, isBlank c = true) ∧
      cs = lines ++ dropBlankLines cs ∧ '\n' ∉ (dropBlankLines cs).takeWhile isBlank := by
  obtain ⟨lines, hlines, hcs, hfeed⟩ := exists_wholeLines_lastLine (cs.takeWhile isBlank)
  have hall : ∀ c ∈ lines ++ lastLine (cs.takeWhile isBlank), isBlank c = true := by
    rw [← hcs]
    exact fun c hc => List.mem_takeWhile_imp hc
  obtain ⟨hblank, hlast⟩ := List.forall_mem_append.mp hall
  have hrest : (cs.dropWhile isBlank).takeWhile isBlank = [] := by
    have hhead := List.head?_dropWhile_not isBlank cs
    rcases hcs : cs.dropWhile isBlank with _ | ⟨c, rest⟩
    · rfl
    · exact List.takeWhile_cons_of_neg (by simpa [hcs] using hhead)
  refine ⟨lines, hlines, hblank, ?_, ?_⟩
  · rw [dropBlankLines, ← List.append_assoc, ← hcs, List.takeWhile_append_dropWhile]
  · rw [dropBlankLines, List.takeWhile_append_of_pos hlast, hrest, List.append_nil]
    exact hfeed

/-- Blank lines are dropped up to a line that is not blank. -/
theorem dropBlankLines_append {lines : List Char} (hlines : WholeLines lines)
    (hblank : ∀ c ∈ lines, isBlank c = true) (h : '\n' ∉ cs.takeWhile isBlank) :
    dropBlankLines (lines ++ cs) = cs := by
  rw [dropBlankLines, List.takeWhile_append_of_pos hblank, List.dropWhile_append_of_pos hblank,
    lastLine_append hlines, lastLine_of_not_mem h, List.takeWhile_append_dropWhile]

/-- What begins with a character that is not blank is kept. -/
theorem dropBlankLines_append_cons {c : Char} (hc : isBlank c = false) (cs ds : List Char) :
    dropBlankLines (cs ++ c :: ds) = dropBlankLines cs ++ c :: ds := by
  obtain ⟨htake, hdrop⟩ := takeWhile_append_cons hc cs ds
  rw [dropBlankLines, htake, hdrop, dropBlankLines, List.append_assoc]

/-- Two beginnings of a text, each up to a character that is not blank, are the same if they are
without the blank lines at their fronts. -/
theorem eq_of_dropBlankLines_eq {c d : Char} (hc : isBlank c = false) (hd : isBlank d = false)
    {cs ds rest rest' : List Char} (h : cs ++ c :: rest = ds ++ d :: rest')
    (hsame : dropBlankLines cs = dropBlankLines ds) : cs = ds := by
  have hboth := congrArg dropBlankLines h
  rw [dropBlankLines_append_cons hc, dropBlankLines_append_cons hd, hsame] at hboth
  rw [List.append_cancel_left hboth] at h
  exact List.append_cancel_right h

end Crosslink.Text
