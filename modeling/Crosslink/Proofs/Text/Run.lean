import Crosslink.Proofs.Text.LineBreak

/-!
# Runs of characters

What it means that some characters are the maximal run of a class at the front of a text, and that
a text is another one without the blanks around it. There is one such run and one such text.
-/

namespace Crosslink.Text

/-- A text without the blanks around it. -/
structure Trimmed (cs inner : List Char) : Prop where
  around : ∃ before after, cs = before ++ inner ++ after ∧ (∀ c ∈ before, isBlank c = true) ∧
    ∀ c ∈ after, isBlank c = true
  head : ∀ c ∈ inner.head?, isBlank c = false
  last : ∀ c ∈ inner.getLast?, isBlank c = false

/-- The characters at the front of a text that belong to a class: none that follows does. -/
structure Run (p : Char → Bool) (cs run rest : List Char) : Prop where
  written : cs = run ++ rest
  all : ∀ c ∈ run, p c = true
  maximal : ∀ c ∈ rest.head?, p c = false

variable {p : Char → Bool} {cs inner run rest : List Char}

theorem run_takeWhile (p : Char → Bool) (cs : List Char) :
    Run p cs (cs.takeWhile p) (cs.dropWhile p) := by
  refine ⟨List.takeWhile_append_dropWhile.symm, fun c hc => List.mem_takeWhile_imp hc,
    fun c hc => ?_⟩
  have hhead := List.head?_dropWhile_not p cs
  rw [Option.mem_def.mp hc] at hhead
  simpa using hhead

/-- A run ends before a character of another class. -/
theorem run_append_cons (hrun : ∀ c ∈ run, p c = true) {c : Char} (hc : p c = false)
    (rest : List Char) : Run p (run ++ c :: rest) run (c :: rest) :=
  ⟨rfl, hrun, by simpa using hc⟩

/-- A text has one maximal run at its front. -/
theorem Run.eq (h : Run p cs run rest) : cs.takeWhile p = run ∧ cs.dropWhile p = rest := by
  obtain ⟨rfl, hall, hmaximal⟩ := h
  rw [List.takeWhile_append_of_pos hall, List.dropWhile_append_of_pos hall]
  cases rest with
  | nil => simp
  | cons c rest => simp [hmaximal c rfl]

theorem trim_of_blank (h : ∀ c ∈ cs, isBlank c = true) : trim cs = [] := by
  rw [trim, trimStart, List.dropWhile_eq_nil_iff.mpr h]
  rfl

/-- Blanks around a text do not count, and nothing else is dropped. -/
theorem trimmed_trim (cs : List Char) : Trimmed cs (trim cs) := by
  obtain ⟨hcs, hbefore, hhead⟩ := run_takeWhile isBlank cs
  obtain ⟨after, hstart, hafter⟩ := exists_append_dropEndWhile isBlank (trimStart cs)
  refine ⟨⟨cs.takeWhile isBlank, after, ?_, hbefore, hafter⟩, fun c hc => ?_, fun c hc => ?_⟩
  · rw [List.append_assoc]
    exact hcs.trans (congrArg _ hstart)
  · rw [head?_trim] at hc
    exact hhead c hc
  · rw [trim, trimEnd, dropEndWhile, List.getLast?_reverse] at hc
    exact (run_takeWhile isBlank (trimStart cs).reverse).maximal c hc

theorem Trimmed.eq (h : Trimmed cs inner) : inner = trim cs := by
  obtain ⟨⟨before, after, rfl, hbefore, hafter⟩, hhead, hlast⟩ := h
  rcases List.eq_nil_or_concat inner with rfl | ⟨front, last, rfl⟩
  · rw [trim_of_blank]
    simpa [or_imp, forall_and] using ⟨hbefore, hafter⟩
  · have hlast : isBlank last = false := hlast last (by simp)
    have hstart : trimStart (before ++ front.concat last ++ after) =
        front.concat last ++ after := by
      refine (Run.eq ⟨List.append_assoc .., hbefore, fun c hc => hhead c ?_⟩).2
      simpa [List.head?_append] using hc
    rw [trim, hstart, trimEnd, List.concat_eq_append, List.append_assoc, List.singleton_append,
      dropEndWhile_append_cons hlast, dropEndWhile, List.dropWhile_eq_nil_iff.mpr (by simpa)]
    rfl

end Crosslink.Text
