import Crosslink.Page.FrontMatter
import Crosslink.Proofs.Text.LineBreak

/-!
# Fences of dashes

A line of at least three dashes with nothing but blanks after them is a fence. Whether a fence
begins somewhere is settled by the line that begins there, so a text is searched for fences line by
line. The block that metadata are read from stands between the first two of them, with the blank
lines at its front dropped.
-/

namespace Crosslink.FrontMatter

open Text

/-- The line is a fence. -/
def IsFence (line : List Char) : Prop :=
  3 ≤ (line.takeWhile (· == '-')).length ∧ ∀ c ∈ line.dropWhile (· == '-'), isBlank c = true

/-- The first line of a text, without its line feed. -/
def firstLine (cs : List Char) : List Char := cs.takeWhile (· != '\n')

/-- The rest of a line is blank if the blanks go on to its end. -/
theorem blank_firstLine_iff (cs : List Char) : (∀ c ∈ firstLine cs, isBlank c = true) ↔
    cs.dropWhile isBlank = [] ∨ '\n' ∈ cs.takeWhile isBlank := by
  induction cs with
  | nil => simp [firstLine]
  | cons c cs ih =>
    have hfeed : isBlank '\n' = true := by decide
    by_cases hc : c = '\n'
    · subst hc
      simp [firstLine, hfeed]
    · have hfirst : firstLine (c :: cs) = c :: firstLine cs :=
        List.takeWhile_cons_of_pos (by simpa using hc)
      cases hblank : isBlank c with
      | true => simp [hfirst, hblank, ih, Ne.symm hc]
      | false => simp [hfirst, hblank]

/-- The first line begins with the dashes of the text, and has no others at its front. -/
theorem dashes_firstLine (cs : List Char) :
    (firstLine cs).takeWhile (· == '-') = cs.takeWhile (· == '-') ∧
      (firstLine cs).dropWhile (· == '-') = firstLine (cs.dropWhile (· == '-')) := by
  induction cs with
  | nil => simp [firstLine]
  | cons c cs ih =>
    by_cases hdash : c = '-'
    · subst hdash
      have hfirst : firstLine ('-' :: cs) = '-' :: firstLine cs :=
        List.takeWhile_cons_of_pos (by decide)
      simpa [hfirst] using ih
    · by_cases hc : c = '\n'
      · simp [firstLine, hc]
      · have hfirst : firstLine (c :: cs) = c :: firstLine cs :=
          List.takeWhile_cons_of_pos (by simpa using hc)
        simp [hfirst, hdash]

/-- A fence begins where the line is one. -/
theorem isSome_dropDashes?_iff (cs : List Char) :
    (dropDashes? cs).isSome = true ↔ IsFence (firstLine cs) := by
  obtain ⟨htake, hdrop⟩ := dashes_firstLine cs
  rw [IsFence, htake, hdrop, blank_firstLine_iff, dropDashes?]
  by_cases hshort : (cs.takeWhile (· == '-')).length < 3
  · have hlong : ¬ 3 ≤ (cs.takeWhile (· == '-')).length := Nat.not_le.mpr hshort
    simp [hshort, hlong]
  · simp only [hshort, if_false, Nat.not_lt.mp hshort, true_and, List.isEmpty_iff,
      List.contains_iff_mem]
    split
    · rename_i hend
      simp [hend]
    · rename_i hend
      split <;> simp_all

/-- A fence begins with a dash. -/
theorem exists_of_isSome_dropDashes? {cs : List Char} (h : (dropDashes? cs).isSome = true) :
    ∃ rest, cs = '-' :: rest := by
  rcases cs with _ | ⟨c, cs⟩
  · cases h
  · by_cases hc : c = '-'
    · exact ⟨cs, by rw [hc]⟩
    · simp [dropDashes?, hc] at h

/-- A line that is complete does not depend on what follows. -/
theorem firstLine_append {cs : List Char} (h : '\n' ∈ cs) (ds : List Char) :
    firstLine (cs ++ ds) = firstLine cs := by
  obtain ⟨front, rest, rfl⟩ := List.append_of_mem h
  have hrun (ds : List Char) : firstLine (front ++ '\n' :: ds) = firstLine front :=
    (takeWhile_append_cons (p := fun c => c != '\n') (by decide) front ds).1
  rw [List.append_assoc, List.cons_append, hrun, hrun]

/-! ## The text before a fence -/

/-- The text before the first fence that begins a line. -/
def beforeFence? (lineStart : Bool) (cs : List Char) : Option (List Char) :=
  (splitFence? dropDashes? lineStart cs).map (·.1)

@[simp] theorem beforeFence?_nil (lineStart : Bool) : beforeFence? lineStart [] = none := by
  cases lineStart <;> rfl

theorem beforeFence?_cons (lineStart : Bool) (c : Char) (cs : List Char) :
    beforeFence? lineStart (c :: cs) =
      if lineStart && (dropDashes? (c :: cs)).isSome then some []
      else (beforeFence? (c == '\n') cs).map (c :: ·) := by
  rw [beforeFence?, splitFence?]
  cases lineStart with
  | false => simp [beforeFence?, Function.comp_def]
  | true =>
    cases dropDashes? (c :: cs) <;> simp [beforeFence?, Function.comp_def]

/-- What stands before a fence is whole lines, and the fence follows. -/
theorem exists_of_beforeFence? {lineStart : Bool} {cs before : List Char}
    (h : beforeFence? lineStart cs = some before) :
    ∃ rest, cs = before ++ rest ∧ (dropDashes? rest).isSome = true ∧
      (before = [] ∧ lineStart = true ∨ before.getLast? = some '\n') := by
  induction cs generalizing lineStart before with
  | nil => simp at h
  | cons c cs ih =>
    rw [beforeFence?_cons] at h
    split at h
    · rename_i hfence
      rw [Bool.and_eq_true] at hfence
      cases h
      exact ⟨c :: cs, rfl, hfence.2, .inl ⟨rfl, hfence.1⟩⟩
    · obtain ⟨before', hbefore, rfl⟩ := Option.map_eq_some_iff.mp h
      obtain ⟨rest, rfl, hrest, hlast⟩ := ih hbefore
      refine ⟨rest, rfl, hrest, .inr ?_⟩
      rcases hlast with ⟨rfl, hc⟩ | hlast
      · simpa using hc
      · rw [List.getLast?_cons, hlast]
        rfl

/-- The first fence is found among whole lines, or else in what follows them. -/
theorem beforeFence?_append {lineStart : Bool} {lines : List Char}
    (hlines : lines.getLast? = some '\n') (cs : List Char) :
    beforeFence? lineStart (lines ++ cs) =
      (beforeFence? lineStart lines).or ((beforeFence? true cs).map (lines ++ ·)) := by
  induction lines generalizing lineStart with
  | nil => cases hlines
  | cons c lines ih =>
    have hlocal : (dropDashes? (c :: lines ++ cs)).isSome = (dropDashes? (c :: lines)).isSome := by
      rw [Bool.eq_iff_iff, isSome_dropDashes?_iff, isSome_dropDashes?_iff,
        firstLine_append (List.mem_of_getLast? hlines)]
    rw [List.cons_append, beforeFence?_cons, beforeFence?_cons]
    rw [List.cons_append] at hlocal
    rw [hlocal]
    split
    · rfl
    · rcases lines with _ | ⟨d, lines⟩
      · have hc : c = '\n' := by simpa using hlines
        simp [hc]
      · rw [ih (by simpa using hlines)]
        cases beforeFence? (c == '\n') (d :: lines) <;> simp [Function.comp_def]

/-- Whole lines without a fence are passed over. -/
theorem beforeFence?_lines {lines : List Char} (hlines : WholeLines lines)
    (h : beforeFence? true lines = none) (cs : List Char) :
    beforeFence? true (lines ++ cs) = (beforeFence? true cs).map (lines ++ ·) := by
  rcases hlines with rfl | hlast
  · simp
  · rw [beforeFence?_append hlast, h, Option.none_or]

/-- All whole lines stand before a fence exactly if none of them is one and one follows. -/
theorem beforeFence?_eq_lines_iff {lines : List Char} (hlines : WholeLines lines)
    (cs : List Char) : beforeFence? true (lines ++ cs) = some lines ↔
      beforeFence? true lines = none ∧ (dropDashes? cs).isSome = true := by
  constructor
  · intro h
    obtain ⟨rest, hrest, hfence, -⟩ := exists_of_beforeFence? h
    rw [← List.append_cancel_left hrest] at hfence
    refine ⟨?_, hfence⟩
    by_contra hsome
    obtain ⟨before, hbefore⟩ := Option.ne_none_iff_exists'.mp hsome
    have hlast : lines.getLast? = some '\n' := by
      refine hlines.resolve_left fun hnil => ?_
      rw [hnil, beforeFence?_nil] at hbefore
      cases hbefore
    rw [beforeFence?_append hlast, hbefore, Option.some_or] at h
    obtain ⟨rest, hrest, hfence, -⟩ := exists_of_beforeFence? hbefore
    rw [Option.some.inj h, List.self_eq_append_right] at hrest
    rw [hrest] at hfence
    cases hfence
  · rintro ⟨hnone, hfence⟩
    have hfirst : beforeFence? true cs = some [] := by
      cases cs with
      | nil => cases hfence
      | cons c cs => rw [beforeFence?_cons, hfence, Bool.and_self, if_pos rfl]
    rw [beforeFence?_lines hlines hnone, hfirst, Option.map_some, List.append_nil]

theorem not_dash_of_blank {c : Char} (h : isBlank c = true) : ¬ (c == '-') = true := by
  intro hdash
  rw [eq_of_beq hdash] at h
  exact absurd h (by decide)

/-- There is no fence among blanks. -/
theorem beforeFence?_of_blank {lineStart : Bool} {cs : List Char}
    (h : ∀ c ∈ cs, isBlank c = true) : beforeFence? lineStart cs = none := by
  induction cs generalizing lineStart with
  | nil => simp
  | cons c cs ih =>
    obtain ⟨hc, hcs⟩ := List.forall_mem_cons.mp h
    have hfence : dropDashes? (c :: cs) = none := by
      simp [dropDashes?, not_dash_of_blank hc]
    rw [beforeFence?_cons, hfence, ih hcs]
    simp

/-! ## The block behind an opening line -/

/-- The block as it is read: line breaks are joined, and blank lines at its front are dropped
behind the line feed of the opening line. -/
def handed (block : List Char) : List Char := '\n' :: dropBlankLines (joinBreaks block)

/-- Behind an opening line and blank lines there is a line feed, unless nothing is left. -/
theorem dropDashes?_opening {gaps : List Char} (hgaps : ∀ c ∈ gaps, isBlank c = true)
    (cs : List Char) : dropDashes? ('-' :: '-' :: '-' :: (gaps ++ '\n' :: cs)) =
      some (if cs.dropWhile isBlank = [] then [] else '\n' :: dropBlankLines cs) := by
  have hfeed : isBlank '\n' = true := by decide
  have hdashes : (gaps ++ '\n' :: cs).takeWhile (· == '-') = [] ∧
      (gaps ++ '\n' :: cs).dropWhile (· == '-') = gaps ++ '\n' :: cs := by
    rcases gaps with _ | ⟨d, gaps⟩
    · simp
    · have hd := not_dash_of_blank (hgaps d List.mem_cons_self)
      simp [hd]
  have htake : (gaps ++ '\n' :: cs).takeWhile isBlank = gaps ++ '\n' :: cs.takeWhile isBlank := by
    rw [List.takeWhile_append_of_pos hgaps, List.takeWhile_cons_of_pos hfeed]
  have hdrop : (gaps ++ '\n' :: cs).dropWhile isBlank = cs.dropWhile isBlank := by
    rw [List.dropWhile_append_of_pos hgaps, List.dropWhile_cons_of_pos hfeed]
  have hlast := (takeWhile_append_cons (p := fun c => c != '\n') (c := '\n') (by decide)
    (cs.takeWhile isBlank).reverse gaps.reverse).1
  by_cases hend : cs.dropWhile isBlank = []
  · simp [dropDashes?, hdashes, hdrop, hend]
  · simp [dropDashes?, hdashes, hdrop, htake, hend, hlast, dropBlankLines, lastLine]

/-- The block behind an opening line goes up to the next fence. -/
theorem between?_opening {gaps : List Char} (hgaps : ∀ c ∈ gaps, isBlank c = true)
    (cs : List Char) : between? dropDashes? ('-' :: '-' :: '-' :: (gaps ++ '\n' :: cs)) =
      (beforeFence? true cs).map fun before => '\n' :: dropBlankLines before := by
  have hsplit : between? dropDashes? ('-' :: '-' :: '-' :: (gaps ++ '\n' :: cs)) =
      beforeFence? false
        (if cs.dropWhile isBlank = [] then [] else '\n' :: dropBlankLines cs) := by
    rw [between?, splitFence?]
    simp only [if_true, dropDashes?_opening hgaps, Option.bind_some]
    rfl
  rw [hsplit]
  split
  · rename_i hall
    rw [beforeFence?_of_blank (List.dropWhile_eq_nil_iff.mp hall), beforeFence?_nil]
    rfl
  · obtain ⟨lines, hlines, hblank, hcs, hfirst⟩ := exists_append_dropBlankLines cs
    generalize dropBlankLines cs = kept at hcs hfirst
    subst hcs
    rw [beforeFence?_cons, beforeFence?_lines hlines (beforeFence?_of_blank hblank)]
    simp only [Bool.false_and, Bool.false_eq_true, if_false, beq_self_eq_true, Option.map_map]
    refine Option.map_congr fun before hmem => ?_
    obtain ⟨rest, rfl, -⟩ := exists_of_beforeFence? hmem
    have hkept : '\n' ∉ before.takeWhile isBlank :=
      fun hn => hfirst (takeWhile_subset_append _ _ _ hn)
    exact congrArg ('\n' :: ·) (dropBlankLines_append hlines hblank hkept).symm

end Crosslink.FrontMatter
