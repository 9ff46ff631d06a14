import Crosslink.Proofs.Text.Run

/-!
# Characters dropped at the ends

What is left of a text when a class of characters is dropped at its end, or at both ends: it is
part of the text, neither of its ends is of the class, and nothing more is dropped from it.
-/

namespace Crosslink.Text

variable {p : Char → Bool} {c : Char} {cs ds : List Char} {s : String}

theorem dropEndWhile_sublist (p : Char → Bool) (cs : List Char) :
    (dropEndWhile p cs).Sublist cs := by
  rw [dropEndWhile, ← List.sublist_reverse_iff]
  exact List.dropWhile_sublist _

theorem trim_sublist (cs : List Char) : (trim cs).Sublist cs :=
  (dropEndWhile_sublist _ _).trans (List.dropWhile_sublist _)

theorem mem_of_mem_dropEndWhile (h : c ∈ dropEndWhile p cs) : c ∈ cs :=
  (dropEndWhile_sublist p cs).subset h

theorem mem_of_mem_trim (h : c ∈ trim cs) : c ∈ cs := (trim_sublist cs).subset h

/-- What begins with a character that is not dropped begins with it when the end is dropped. -/
theorem exists_dropEndWhile_cons (drop : Char → Bool) (h : drop c = false) (cs : List Char) :
    ∃ rest, dropEndWhile drop (c :: cs) = c :: rest :=
  ⟨_, dropEndWhile_append_cons h [] cs⟩

/-- What is left ends with a character that is not dropped. -/
theorem getLast?_dropEndWhile (h : c ∈ (dropEndWhile p cs).getLast?) : p c = false := by
  rw [dropEndWhile, List.getLast?_reverse] at h
  exact (run_takeWhile p cs.reverse).maximal c h

/-- What is left begins as before. -/
theorem head?_of_dropEndWhile (h : c ∈ (dropEndWhile p cs).head?) : c ∈ cs.head? := by
  obtain ⟨run, hrun, -⟩ := exists_append_dropEndWhile p cs
  obtain ⟨rest, hrest⟩ := List.head?_eq_some_iff.mp h
  rw [hrun, hrest]
  rfl

/-- Nothing is dropped at the end if the last character is not of the class. -/
theorem dropEndWhile_eq_self (h : ∀ c ∈ cs.getLast?, p c = false) : dropEndWhile p cs = cs := by
  rcases List.eq_nil_or_concat cs with rfl | ⟨front, last, rfl⟩
  · rfl
  · rw [List.concat_eq_append, dropEndWhile_append_cons (h last (by simp)) front []]
    rfl

/-- A run of the class at the end does not count. -/
theorem dropEndWhile_append_of_all (h : ∀ c ∈ ds, p c = true) :
    dropEndWhile p (cs ++ ds) = dropEndWhile p cs := by
  rw [dropEndWhile, List.reverse_append, List.dropWhile_append_of_pos (by simpa using h),
    dropEndWhile]

/-- Behind a text that goes on with another character nothing before that character is dropped. -/
theorem dropEndWhile_append_of_mem (h : ∃ c ∈ ds, p c = false) :
    dropEndWhile p (cs ++ ds) = cs ++ dropEndWhile p ds := by
  obtain ⟨c, hmem, hc⟩ := h
  obtain ⟨before, after, rfl⟩ := List.append_of_mem hmem
  rw [← List.append_assoc, dropEndWhile_append_cons hc, dropEndWhile_append_cons hc,
    List.append_assoc]

theorem toList_strip (c : Char) (s : String) :
    (strip c s).toList = dropEndWhile (· == c) (s.toList.dropWhile (· == c)) := by
  simp [strip, stripEnd, stripStart]

theorem strip_sublist (c : Char) (s : String) : (strip c s).toList.Sublist s.toList := by
  rw [toList_strip]
  exact (dropEndWhile_sublist _ _).trans (List.dropWhile_sublist _)

theorem head?_strip (c : Char) (s : String) : (strip c s).toList.head? ≠ some c := by
  rw [toList_strip]
  intro h
  have hfirst := (run_takeWhile (· == c) s.toList).maximal c (head?_of_dropEndWhile h)
  simp at hfirst

theorem getLast?_strip (c : Char) (s : String) : (strip c s).toList.getLast? ≠ some c := by
  rw [toList_strip]
  intro h
  have hlast := getLast?_dropEndWhile h
  simp at hlast

/-- A text without the character at its ends stays as it is. -/
theorem strip_eq_self (hhead : s.toList.head? ≠ some c) (hlast : s.toList.getLast? ≠ some c) :
    strip c s = s := by
  have hrun : s.toList.dropWhile (· == c) = s.toList := by
    cases hs : s.toList with
    | nil => rfl
    | cons d rest => exact List.dropWhile_cons_of_neg (by simpa [hs] using hhead)
  rw [← String.toList_inj, toList_strip, hrun]
  refine dropEndWhile_eq_self fun d hd => ?_
  rw [beq_eq_false_iff_ne]
  rintro rfl
  exact hlast hd

end Crosslink.Text
